import RobotProgram.Tracking.Window
/-!
# RobotProgram.Proofs.StreamingWindow

What a streaming window does over a whole run of priming and pointer reports, in any order and
with any rows. A run records every action with its cause: priming, or a pointer report and the
position it unwrapped to.

The three loops each do one thing (`primeLoop_spec`, `retireLoop_spec`, `feedLoop_spec`): they
hand out the next targets in order, each for a reason that holds at that moment. From these, one
step keeps `Streamed`, the invariant of a window and the log of everything it did so far:

* `retired ≤ fed ≤ total` and `fed - retired ≤ window`;
* the feeds of the log are targets `0, 1, …, fed - 1` in order, the retirements
  `0, 1, …, retired - 1`;
* every entry of the log was `Caused`: its slot is its target modulo the window; a retirement
  follows the feed of its target and comes from a program report whose position is at least
  the target plus `retireMargin`, that sum taken as a word; a feed past the first ring follows
  the retirement of the target a lap before and comes from a motion report at least
  `feedMargin` past that target.

Main statement: `run_streams_in_order`, every run of a new window keeps `Streamed`, and so no
slot is fed again while it holds a target that is not retired.

The retire threshold wraps round the word, so a target near the end of the word can be retired
by a report whose position is below the target itself (`retire_threshold_wraps`).
-/

namespace RobotProgram

namespace StreamAction

/-- The ring slot an action is about. -/
def slot : StreamAction → Nat
  | .feed s _ => s
  | .retire s _ => s

/-- The target an action is about. -/
def target : StreamAction → Nat
  | .feed _ t => t
  | .retire _ t => t

/-- The target an action feeds. -/
def fed? : StreamAction → Option Nat
  | .feed _ t => some t
  | .retire _ _ => none

/-- The target an action retires. -/
def retired? : StreamAction → Option Nat
  | .feed _ _ => none
  | .retire _ t => some t

end StreamAction

/-- What made a window act: priming, or a pointer report of a kind, unwrapped to a position. -/
inductive Cause where
  | prime
  | pointer (kind : PointerKind) (position : Nat)
deriving Repr, DecidableEq

/-- The targets fed by a log, in order. -/
def fedTargets (log : List (StreamAction × Cause)) : List Nat :=
  log.filterMap fun e => e.1.fed?

/-- The targets retired by a log, in order. -/
def retiredTargets (log : List (StreamAction × Cause)) : List Nat :=
  log.filterMap fun e => e.1.retired?

@[simp] theorem fedTargets_append (xs ys : List (StreamAction × Cause)) :
    fedTargets (xs ++ ys) = fedTargets xs ++ fedTargets ys := List.filterMap_append

@[simp] theorem retiredTargets_append (xs ys : List (StreamAction × Cause)) :
    retiredTargets (xs ++ ys) = retiredTargets xs ++ retiredTargets ys := List.filterMap_append

namespace StreamingWindow

/-- The unwrapper a pointer kind is followed by. -/
def unwrapper (w : StreamingWindow) : PointerKind → Unwrapper
  | .program => w.program
  | .motion => w.motion

/-- The cause of the actions an event makes: for a report, the position its row unwraps to. -/
def cause (w : StreamingWindow) : WindowEvent → Cause
  | .prime => .prime
  | .observe kind row =>
    .pointer kind ((w.unwrapper kind).position (row - w.baseRow) w.config.window).2

/-- Events applied in turn: the window after them, and every action with its cause, in
order. -/
def run (w : StreamingWindow) : List WindowEvent → StreamingWindow × List (StreamAction × Cause)
  | [] => (w, [])
  | e :: es =>
    let (w', actions) := w.step e
    let (w'', log) := w'.run es
    (w'', actions.map (·, w.cause e) ++ log)

/-! ## The three loops -/

/-- Priming feeds targets from the next one up to `min total window`. -/
theorem primeLoop_spec (w : StreamingWindow) :
    ∃ f, w.nextFeed ≤ f ∧ w.primeLoop = ({ w with nextFeed := f },
      (List.range' w.nextFeed (f - w.nextFeed)).map fun t => .feed (t % w.config.window) t) ∧
      ∀ t, w.nextFeed ≤ t → t < f → t < min w.total w.config.window := by
  fun_induction primeLoop w with
  | case1 w hcond t w' rest hcall ih =>
    obtain ⟨f, hle, heq, hfed⟩ := ih
    refine ⟨f, by simp only at hle; omega, ?_, ?_⟩
    · simp only at heq
      rw [heq] at hcall
      cases hcall
      have hsplit : f - w.nextFeed = (f - (w.nextFeed + 1)) + 1 := by simp only at hle; omega
      rw [hsplit, List.range'_succ]
      rfl
    · intro u hlo hhi
      by_cases hu : u = w.nextFeed
      · rw [hu]; exact hcond
      · exact hfed u (by simp only; omega) hhi
  | case2 w hcond =>
    exact ⟨w.nextFeed, Nat.le_refl _, by simp, fun t hlo hhi => absurd hhi (by omega)⟩

/-- Retiring takes targets from the next unretired one on, each fed already and with the
position at least the target plus `retireMargin`, as a word. -/
theorem retireLoop_spec (w : StreamingWindow) (position : Nat) :
    ∃ r, w.retired ≤ r ∧ w.retireLoop position = ({ w with retired := r },
      (List.range' w.retired (r - w.retired)).map fun t => .retire (t % w.config.window) t) ∧
      ∀ t, w.retired ≤ t → t < r →
        t < w.nextFeed ∧ (t + w.config.retireMargin) % wordSize ≤ position := by
  fun_induction retireLoop w position with
  | case1 w hcond t w' rest hcall ih =>
    obtain ⟨r, hle, heq, hretired⟩ := ih
    refine ⟨r, by simp only at hle; omega, ?_, ?_⟩
    · simp only at heq
      rw [heq] at hcall
      cases hcall
      have hsplit : r - w.retired = (r - (w.retired + 1)) + 1 := by simp only at hle; omega
      rw [hsplit, List.range'_succ]
      rfl
    · intro u hlo hhi
      by_cases hu : u = w.retired
      · rw [hu]; exact hcond
      · exact hretired u (by simp only; omega) hhi
  | case2 w hcond =>
    exact ⟨w.retired, Nat.le_refl _, by simp, fun t hlo hhi => absurd hhi (by omega)⟩

/-- Feeding past the first ring takes targets from the next one on, each in the list, a lap
past the first ring, with the target a lap before retired and at least `feedMargin` behind the
position. -/
theorem feedLoop_spec (w : StreamingWindow) (position : Nat) :
    ∃ f, w.nextFeed ≤ f ∧ w.feedLoop position = ({ w with nextFeed := f },
      (List.range' w.nextFeed (f - w.nextFeed)).map fun t => .feed (t % w.config.window) t) ∧
      ∀ t, w.nextFeed ≤ t → t < f → t < w.total ∧ w.config.window ≤ t ∧
        t - w.config.window < w.retired ∧
        t - w.config.window + w.config.feedMargin ≤ position := by
  fun_induction feedLoop w position with
  | case1 w t n hcond w' rest hcall ih =>
    obtain ⟨f, hle, heq, hfed⟩ := ih
    refine ⟨f, by simp only at hle; omega, ?_, ?_⟩
    · simp only at heq
      rw [heq] at hcall
      cases hcall
      have hsplit : f - w.nextFeed = (f - (w.nextFeed + 1)) + 1 := by simp only at hle; omega
      rw [hsplit, List.range'_succ]
      rfl
    · intro u hlo hhi
      by_cases hu : u = w.nextFeed
      · rw [hu]; exact hcond
      · exact hfed u (by simp only; omega) hhi
  | case2 w t n hcond =>
    exact ⟨w.nextFeed, Nat.le_refl _, by simp, fun t hlo hhi => absurd hhi (by omega)⟩

end StreamingWindow

/-! ## The invariant -/

/-- Why an action with a cause may follow the entries `before` of a log: its slot is its target
modulo the window; a retirement follows the feed of its target and comes from a program report
whose position is at least the target plus `retireMargin`, that sum taken as a word; a feed of
the first ring comes from priming, and a feed past it follows the retirement of the target a
lap before and comes from a motion report at least `feedMargin` past that target. -/
def Caused (config : WindowConfig) (before : List (StreamAction × Cause)) :
    StreamAction → Cause → Prop
  | .retire s t, c => s = t % config.window ∧ t ∈ fedTargets before ∧
      ∃ p, c = .pointer .program p ∧ (t + config.retireMargin) % wordSize ≤ p
  | .feed s t, c => s = t % config.window ∧ (t < config.window → c = .prime) ∧
      (config.window ≤ t → t - config.window ∈ retiredTargets before ∧
        ∃ p, c = .pointer .motion p ∧ t - config.window + config.feedMargin ≤ p)

/-- A reason that holds after some entries holds after more. -/
theorem Caused.append {config : WindowConfig} {before : List (StreamAction × Cause)}
    {a : StreamAction} {c : Cause} (more : List (StreamAction × Cause))
    (h : Caused config before a c) : Caused config (before ++ more) a c := by
  cases a with
  | retire s t =>
    obtain ⟨hslot, hfed, hcause⟩ := h
    exact ⟨hslot, by simp [hfed], hcause⟩
  | feed s t =>
    obtain ⟨hslot, hfirst, hlater⟩ := h
    refine ⟨hslot, hfirst, fun ht => ?_⟩
    obtain ⟨hretired, hcause⟩ := hlater ht
    exact ⟨by simp [hretired], hcause⟩

/-- Every entry of a log is caused by what stands before it, if that holds of a log and every
entry of a block is caused by the whole log. -/
theorem caused_append {config : WindowConfig} {log block : List (StreamAction × Cause)}
    (hlog : ∀ before a c after, log = before ++ (a, c) :: after → Caused config before a c)
    (hblock : ∀ a c, (a, c) ∈ block → Caused config log a c) :
    ∀ before a c after, log ++ block = before ++ (a, c) :: after →
      Caused config before a c := by
  intro before a c after h
  rcases List.append_eq_append_iff.mp h with ⟨mid, hbefore, hrest⟩ | ⟨mid, hlog', hrest⟩
  · -- the entry lies in the block
    rw [hbefore]
    exact (hblock a c (by rw [hrest]; simp)).append mid
  · -- the entry lies in the log, or opens the block
    cases mid with
    | nil =>
      simp only [List.append_nil] at hlog'
      simp only [List.nil_append] at hrest
      rw [← hlog']
      exact hblock a c (by rw [← hrest]; simp)
    | cons x mid =>
      simp only [List.cons_append, List.cons.injEq] at hrest
      rw [← hrest.1] at hlog'
      exact hlog before a c mid hlog'

namespace StreamingWindow

/-- The invariant of a window and the log of everything it did: the counters are ordered and
at most a ring apart, both kinds of action name their targets in order from zero, and every
entry is caused by what came before it. -/
structure Streamed (w : StreamingWindow) (log : List (StreamAction × Cause)) : Prop where
  retired_le_fed : w.retired ≤ w.fed
  fed_le_total : w.fed ≤ w.total
  fed_sub_retired_le : w.fed - w.retired ≤ w.config.window
  fed_in_order : fedTargets log = List.range w.fed
  retired_in_order : retiredTargets log = List.range w.retired
  caused : ∀ before a c after, log = before ++ (a, c) :: after → Caused w.config before a c

/-- The targets below `a` followed by those from `a` below `b` are the targets below `b`. -/
theorem range_append_range' {a b : Nat} (hab : a ≤ b) :
    List.range a ++ List.range' a (b - a) = List.range b := by
  have hsplit : List.range' 0 a ++ List.range' (0 + a) (b - a) = List.range' 0 (a + (b - a)) :=
    List.range'_append_1
  rw [Nat.zero_add] at hsplit
  rw [List.range_eq_range', List.range_eq_range', hsplit]
  congr 1
  omega

/-- The feeds of a block of feeds are its targets. -/
theorem fedTargets_feeds (n : Nat) (ts : List Nat) (cause : Cause) :
    fedTargets (((ts.map fun t => StreamAction.feed (t % n) t).map (·, cause))) = ts := by
  simp [fedTargets, List.filterMap_map, StreamAction.fed?, Function.comp_def]

/-- A block of feeds retires nothing. -/
theorem retiredTargets_feeds (n : Nat) (ts : List Nat) (cause : Cause) :
    retiredTargets (((ts.map fun t => StreamAction.feed (t % n) t).map (·, cause))) = [] := by
  simp [retiredTargets, List.filterMap_map, StreamAction.retired?, Function.comp_def]

/-- A block of retirements feeds nothing. -/
theorem fedTargets_retires (n : Nat) (ts : List Nat) (cause : Cause) :
    fedTargets (((ts.map fun t => StreamAction.retire (t % n) t).map (·, cause))) = [] := by
  simp [fedTargets, List.filterMap_map, StreamAction.fed?, Function.comp_def]

/-- The retirements of a block of retirements are its targets. -/
theorem retiredTargets_retires (n : Nat) (ts : List Nat) (cause : Cause) :
    retiredTargets (((ts.map fun t => StreamAction.retire (t % n) t).map (·, cause))) = ts := by
  simp [retiredTargets, List.filterMap_map, StreamAction.retired?, Function.comp_def]

/-- Feeding the targets from `nextFeed` up to `f`, each in the list, within a ring of the
retired targets and caused by the log so far, keeps the invariant. -/
theorem Streamed.feed {w : StreamingWindow} {log : List (StreamAction × Cause)}
    (h : Streamed w log) (f : Nat) (cause : Cause) (hle : w.nextFeed ≤ f)
    (hfeed : ∀ t, w.nextFeed ≤ t → t < f → t < w.total ∧ t < w.retired + w.config.window ∧
      Caused w.config log (.feed (t % w.config.window) t) cause) :
    Streamed { w with nextFeed := f }
      (log ++ ((List.range' w.nextFeed (f - w.nextFeed)).map fun t =>
        StreamAction.feed (t % w.config.window) t).map (·, cause)) where
  retired_le_fed := Nat.le_trans h.retired_le_fed hle
  fed_le_total := by
    by_cases hf : f = w.nextFeed
    · simpa [hf] using h.fed_le_total
    · have := (hfeed (f - 1) (by omega) (by omega)).1
      simp only [fed]
      omega
  fed_sub_retired_le := by
    by_cases hf : f = w.nextFeed
    · simpa [hf] using h.fed_sub_retired_le
    · have := (hfeed (f - 1) (by omega) (by omega)).2.1
      simp only [fed]
      omega
  fed_in_order := by
    rw [fedTargets_append, fedTargets_feeds, h.fed_in_order, fed, range_append_range' hle]
    rfl
  retired_in_order := by
    rw [retiredTargets_append, retiredTargets_feeds, h.retired_in_order, List.append_nil]
  caused := by
    refine caused_append h.caused ?_
    intro a c hmem
    simp only [List.map_map, List.mem_map, Function.comp_apply, Prod.mk.injEq,
      List.mem_range'_1] at hmem
    obtain ⟨t, ⟨hlo, hhi⟩, rfl, rfl⟩ := hmem
    exact (hfeed t hlo (by omega)).2.2

/-- Retiring the targets from `retired` up to `r`, each fed and caused by the log so far,
keeps the invariant. -/
theorem Streamed.retire {w : StreamingWindow} {log : List (StreamAction × Cause)}
    (h : Streamed w log) (r : Nat) (cause : Cause) (hle : w.retired ≤ r)
    (hretire : ∀ t, w.retired ≤ t → t < r → t < w.nextFeed ∧
      Caused w.config log (.retire (t % w.config.window) t) cause) :
    Streamed { w with retired := r }
      (log ++ ((List.range' w.retired (r - w.retired)).map fun t =>
        StreamAction.retire (t % w.config.window) t).map (·, cause)) where
  retired_le_fed := by
    by_cases hr : r = w.retired
    · simpa [hr] using h.retired_le_fed
    · have := (hretire (r - 1) (by omega) (by omega)).1
      simp only [fed]
      omega
  fed_le_total := h.fed_le_total
  fed_sub_retired_le := by
    have := h.fed_sub_retired_le
    simp only [fed] at this ⊢
    omega
  fed_in_order := by
    rw [fedTargets_append, fedTargets_retires, h.fed_in_order, List.append_nil]
    rfl
  retired_in_order := by
    rw [retiredTargets_append, retiredTargets_retires, h.retired_in_order,
      range_append_range' hle]
  caused := by
    refine caused_append h.caused ?_
    intro a c hmem
    simp only [List.map_map, List.mem_map, Function.comp_apply, Prod.mk.injEq,
      List.mem_range'_1] at hmem
    obtain ⟨t, ⟨hlo, hhi⟩, rfl, rfl⟩ := hmem
    exact (hretire t hlo (by omega)).2

/-- The invariant looks only at the configuration and the counters. -/
theorem Streamed.of_counters {w : StreamingWindow} {log : List (StreamAction × Cause)}
    (h : Streamed w log) (w' : StreamingWindow) (hconfig : w'.config = w.config)
    (htotal : w'.total = w.total) (hfed : w'.nextFeed = w.nextFeed)
    (hretired : w'.retired = w.retired) : Streamed w' log where
  retired_le_fed := by simpa only [fed, hfed, hretired] using h.retired_le_fed
  fed_le_total := by simpa only [fed, hfed, htotal] using h.fed_le_total
  fed_sub_retired_le := by simpa only [fed, hfed, hretired, hconfig] using h.fed_sub_retired_le
  fed_in_order := by simpa only [fed, hfed] using h.fed_in_order
  retired_in_order := by simpa only [hretired] using h.retired_in_order
  caused := by simpa only [hconfig] using h.caused

/-- One event keeps the invariant, with its actions logged under its cause. -/
theorem Streamed.step {w : StreamingWindow} {log : List (StreamAction × Cause)}
    (h : Streamed w log) (e : WindowEvent) :
    Streamed (w.step e).1 (log ++ (w.step e).2.map (·, w.cause e)) := by
  cases e with
  | prime =>
    obtain ⟨f, hle, heq, hfed⟩ := primeLoop_spec w
    simp only [StreamingWindow.step, StreamingWindow.prime, heq, cause]
    refine h.feed f .prime hle fun t hlo hhi => ?_
    have ht := hfed t hlo hhi
    exact ⟨by omega, by omega, rfl, fun _ => rfl, fun hn => absurd hn (by omega)⟩
  | observe kind row =>
    simp only [StreamingWindow.step, observe]
    split
    · simpa using h
    · cases kind with
      | program =>
        rcases hp : w.program.position (row - w.baseRow) w.config.window with ⟨u, position⟩
        have h' := h.of_counters { w with program := u } rfl rfl rfl rfl
        obtain ⟨r, hle, heq, hret⟩ := retireLoop_spec { w with program := u } position
        simp only [heq, cause, unwrapper, hp]
        refine h'.retire r _ hle fun t hlo hhi => ?_
        have ht := hret t hlo hhi
        refine ⟨ht.1, rfl, ?_, position, rfl, ht.2⟩
        rw [h.fed_in_order, List.mem_range]
        exact ht.1
      | motion =>
        rcases hp : w.motion.position (row - w.baseRow) w.config.window with ⟨u, position⟩
        have h' := h.of_counters { w with motion := u } rfl rfl rfl rfl
        obtain ⟨f, hle, heq, hfed⟩ := feedLoop_spec { w with motion := u } position
        simp only [heq, cause, unwrapper, hp]
        refine h'.feed f _ hle fun t hlo hhi => ?_
        have ht := hfed t hlo hhi
        refine ⟨ht.1, by omega, rfl, fun hn => absurd ht.2.1 (by omega),
          fun _ => ⟨?_, position, rfl, ht.2.2.2⟩⟩
        rw [h.retired_in_order, List.mem_range]
        exact ht.2.2.1

/-- One event keeps the configuration and the number of targets. -/
theorem step_config_total (w : StreamingWindow) (e : WindowEvent) :
    (w.step e).1.config = w.config ∧ (w.step e).1.total = w.total := by
  cases e with
  | prime =>
    obtain ⟨f, -, heq, -⟩ := primeLoop_spec w
    simp only [StreamingWindow.step, StreamingWindow.prime, heq, and_self]
  | observe kind row =>
    simp only [StreamingWindow.step, observe]
    split
    · exact ⟨rfl, rfl⟩
    · cases kind with
      | program =>
        obtain ⟨r, -, heq, -⟩ := retireLoop_spec { w with
          program := (w.program.position (row - w.baseRow) w.config.window).1 }
          (w.program.position (row - w.baseRow) w.config.window).2
        simp only [heq, and_self]
      | motion =>
        obtain ⟨f, -, heq, -⟩ := feedLoop_spec { w with
          motion := (w.motion.position (row - w.baseRow) w.config.window).1 }
          (w.motion.position (row - w.baseRow) w.config.window).2
        simp only [heq, and_self]

/-- A run keeps the configuration and the number of targets. -/
theorem run_config_total (w : StreamingWindow) (events : List WindowEvent) :
    (w.run events).1.config = w.config ∧ (w.run events).1.total = w.total := by
  induction events generalizing w with
  | nil => exact ⟨rfl, rfl⟩
  | cons e es ih =>
    obtain ⟨hconfig, htotal⟩ := step_config_total w e
    obtain ⟨hconfig', htotal'⟩ := ih (w.step e).1
    simp only [StreamingWindow.run]
    exact ⟨hconfig'.trans hconfig, htotal'.trans htotal⟩

/-- A run keeps the invariant, its log appended to what came before. -/
theorem Streamed.run {w : StreamingWindow} {log : List (StreamAction × Cause)}
    (h : Streamed w log) (events : List WindowEvent) :
    Streamed (w.run events).1 (log ++ (w.run events).2) := by
  induction events generalizing w log with
  | nil => simpa [StreamingWindow.run] using h
  | cons e es ih =>
    have hrest := ih (h.step e)
    simp only [StreamingWindow.run, ← List.append_assoc]
    exact hrest

/-- A new window has done nothing yet. -/
theorem new_streamed {config : WindowConfig} {baseRow total : Nat} {w : StreamingWindow}
    (hnew : StreamingWindow.new config baseRow total = .ok w) :
    Streamed w [] ∧ w.config = config ∧ w.total = total := by
  unfold StreamingWindow.new at hnew
  split at hnew
  · cases hnew
    refine ⟨⟨Nat.le_refl 0, Nat.zero_le _, Nat.zero_le _, rfl, rfl, ?_⟩, rfl, rfl⟩
    intro before a c after h
    simp at h
  · split at hnew <;> cases hnew

/-! ## Slots are not refilled too early -/

/-- A list of targets that begins a run `0, 1, …` is itself such a run, and the target after
it is its length. -/
theorem eq_range_of_append_cons {xs ys : List Nat} {t n : Nat}
    (h : xs ++ t :: ys = List.range n) : xs = List.range xs.length ∧ t = xs.length := by
  rw [List.range_eq_range'] at h
  obtain ⟨k, -, hxs, hrest⟩ := List.range'_eq_append_iff.mp h.symm
  have hlen : xs.length = k := by rw [hxs, List.length_range']
  obtain ⟨ht, -, -⟩ := List.range'_eq_cons_iff.mp hrest.symm
  refine ⟨by rw [hlen, List.range_eq_range', hxs], by omega⟩

/-- A list of targets that begins a run `0, 1, …` is itself such a run. -/
theorem eq_range_of_append {xs ys : List Nat} {n : Nat} (h : xs ++ ys = List.range n) :
    xs = List.range xs.length := by
  rw [List.range_eq_range'] at h
  obtain ⟨k, -, hxs, -⟩ := List.range'_eq_append_iff.mp h.symm
  have hlen : xs.length = k := by rw [hxs, List.length_range']
  rw [hlen, List.range_eq_range', hxs]

/-- Two targets of one slot, the first before the second, are at least a ring apart. -/
theorem add_window_le_of_mod_eq {t' t n : Nat} (hlt : t' < t)
    (hmod : t' % n = t % n) : t' + n ≤ t := by
  have hdvd : n ∣ t - t' := Nat.dvd_of_mod_eq_zero (Nat.sub_mod_eq_zero_of_mod_eq hmod.symm)
  have hle := Nat.le_of_dvd (by omega) hdvd
  omega

/-- When a slot is fed again, every target it held before has been retired. -/
theorem Streamed.refill_after_retire {w : StreamingWindow} {log : List (StreamAction × Cause)}
    (h : Streamed w log) {before after : List (StreamAction × Cause)} {s t : Nat} {c : Cause}
    (hsplit : log = before ++ (.feed s t, c) :: after) :
    ∀ t' ∈ fedTargets before, t' % w.config.window = s → t' ∈ retiredTargets before := by
  intro t' hfed hslot
  obtain ⟨hs, -, hlater⟩ := h.caused before _ _ after hsplit
  -- the feeds before `t` are the targets below `t`
  have hfeeds := h.fed_in_order
  rw [hsplit, fedTargets_append] at hfeeds
  obtain ⟨hbefore, ht⟩ := eq_range_of_append_cons hfeeds
  rw [hbefore, List.mem_range, ← ht] at hfed
  -- so `t'` is a ring or more below `t`, and the target a ring below `t` is retired
  have hgap := add_window_le_of_mod_eq hfed (hslot.trans hs)
  obtain ⟨hret, -⟩ := hlater (by omega)
  have hretires := h.retired_in_order
  rw [hsplit, retiredTargets_append] at hretires
  have hfront := eq_range_of_append hretires
  rw [hfront, List.mem_range] at hret ⊢
  omega

/-- Every run of a new window keeps the invariant under the window's configuration and number of
targets, and so no slot is fed again while a target it held is not retired. -/
theorem run_streams_in_order {config : WindowConfig} {baseRow total : Nat} {w : StreamingWindow}
    (hnew : StreamingWindow.new config baseRow total = .ok w) (events : List WindowEvent) :
    (w.run events).1.config = config ∧ (w.run events).1.total = total ∧
      Streamed (w.run events).1 (w.run events).2 ∧
      ∀ before s t c after, (w.run events).2 = before ++ (.feed s t, c) :: after →
        ∀ t' ∈ fedTargets before, t' % config.window = s → t' ∈ retiredTargets before := by
  obtain ⟨hstart, hconfig, htotal⟩ := new_streamed hnew
  obtain ⟨hconfig', htotal'⟩ := run_config_total w events
  have hrun := hstart.run events
  rw [List.nil_append] at hrun
  refine ⟨hconfig'.trans hconfig, htotal'.trans htotal, hrun, ?_⟩
  intro before s t c after hsplit
  rw [← hconfig, ← hconfig']
  exact hrun.refill_after_retire hsplit

/-- A ring of four slots over six targets, primed and then followed through the pointer reports
of a short run, streams in order. -/
theorem run_streams_in_order_ring_of_four :
    let config : WindowConfig := ⟨4, 2, 1⟩
    let w : StreamingWindow := ⟨config, by decide, 10, 6, 0, 0, {}, {}⟩
    let events : List WindowEvent :=
      [.prime, .observe .program 11, .observe .motion 11, .observe .motion 12]
    StreamingWindow.new config 10 6 = .ok w ∧
      ((w.run events).1.config = config ∧ (w.run events).1.total = 6 ∧
        Streamed (w.run events).1 (w.run events).2 ∧
        ∀ before s t c after, (w.run events).2 = before ++ (.feed s t, c) :: after →
          ∀ t' ∈ fedTargets before, t' % config.window = s → t' ∈ retiredTargets before) :=
  ⟨rfl, run_streams_in_order rfl _⟩

example :
    let w : StreamingWindow := ⟨⟨4, 2, 1⟩, by decide, 10, 6, 0, 0, {}, {}⟩
    (w.run [.prime, .observe .program 11, .observe .motion 11, .observe .motion 12]).2.map Prod.fst
      = [.feed 0 0, .feed 1 1, .feed 2 2, .feed 3 3, .retire 0 0, .feed 0 4] := by
  decide +kernel

/-- A ring of `wordSize - 1` slots with both margins `wordSize - 2`, over five targets. After
priming, the program pointer at the ring's last row retires target `0`; back at its first row it
is unwrapped to `wordSize - 1` and retires targets `1` to `4`, though target `2` plus the margin
is past that position: the sum wrapped round the word. -/
theorem retire_threshold_wraps :
    let config : WindowConfig := ⟨wordSize - 1, wordSize - 2, wordSize - 2⟩
    let w : StreamingWindow := ⟨config, by decide, 0, 5, 0, 0, {}, {}⟩
    StreamingWindow.new config 0 5 = .ok w ∧
      (.retire 2 2, .pointer .program (wordSize - 1)) ∈
        (w.run [.prime, .observe .program (wordSize - 2), .observe .program 0]).2 ∧
      wordSize - 1 < 2 + config.retireMargin :=
  ⟨rfl, by decide +kernel, by decide⟩

end StreamingWindow

end RobotProgram
