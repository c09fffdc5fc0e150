import RobotProgram.Proofs.StreamingWindow
/-!
# RobotProgram.Proofs.WindowProgress

A window whose pointers go round the ring together finishes. After priming, at each step `p`
both pointers report the row of slot `p mod window`, in either order. A pointer that goes round
a ring of two slots or more jumps back to the first row once a lap, so it is unwrapped to `p`,
as a word (`Unwrapper.position_afterLaps`). Each step then retires the fed targets up to
`p + 1 - retireMargin` and feeds far enough ahead for the next one (`Lockstep.step`), and after
`total + retireMargin` steps every target is fed and retired.

Positions are words, so past `wordSize - 1` steps they start again from zero. The step at
position `wordSize - 1` passes every retire threshold and retires everything fed, and the motion
pointer then feeds the rest (`Lockstep.past_word`). From there on the thresholds left have
wrapped too and compare as before (`retireLoop_lockstep`). The count of targets and the ring
being words is what makes this work.

A ring of one slot is different: its row never jumps back, so no lap is ever counted, both
pointers stay at position `0`, and the window stops once its second target is fed.

Main statements: `lockstep_completes` and `lockstep_stalls_on_one_slot`.
-/

namespace RobotProgram

/-! ## Going round the ring -/

namespace Unwrapper

/-- The unwrapper of a pointer that has reported, one after another, the offsets of positions
`0, 1, …, k - 1` in a ring of `window` slots. -/
def afterLaps (k window : Nat) : Unwrapper :=
  match k with
  | 0 => {}
  | j + 1 => ⟨some (j % window), j / window⟩

/-- A pointer going round a ring of two slots or more, one row at a time, is unwrapped to the
number of rows it has passed, as a word, while its laps fit in a word: the offset goes back
exactly when a lap is completed. -/
theorem position_afterLaps {window : Nat} (hwindow : 2 ≤ window) {k : Nat}
    (hlaps : k / window < wordSize) :
    (afterLaps k window).position (k % window) window = (afterLaps (k + 1) window, k % wordSize) := by
  cases k with
  | zero => simp [afterLaps, position]
  | succ j =>
    have hsplit := Nat.div_add_mod j window
    have hlt := Nat.mod_lt j (by omega : 0 < window)
    simp only [afterLaps, position]
    by_cases hwrap : j % window + 1 = window
    · -- the lap is completed: the offset goes back to zero
      obtain ⟨hdiv, hmod⟩ := (Nat.div_mod_unique (by omega : 0 < window)).mpr
        (⟨by rw [Nat.mul_add, Nat.mul_one]; omega, by omega⟩ :
          0 + window * (j / window + 1) = j + 1 ∧ 0 < window)
      rw [hdiv] at hlaps
      rw [hmod, hdiv, if_pos (by omega), Nat.mod_eq_of_lt hlaps]
      congr 2
      rw [Nat.add_mul, Nat.one_mul, Nat.mul_comm]
      omega
    · -- within the lap: the offset moves on by one
      obtain ⟨hdiv, hmod⟩ := (Nat.div_mod_unique (by omega : 0 < window)).mpr
        (⟨by omega, by omega⟩ : (j % window + 1) + window * (j / window) = j + 1 ∧
          j % window + 1 < window)
      rw [hmod, hdiv, if_neg (by omega)]
      congr 2
      rw [Nat.mul_comm]
      omega

end Unwrapper

/-! ## Words -/

/-- A number below two words is, as a word, itself or itself less one word. -/
theorem mod_wordSize_cases {a : Nat} (h : a < 2 * wordSize) :
    (a < wordSize ∧ a % wordSize = a) ∨ (wordSize ≤ a ∧ a % wordSize = a - wordSize) := by
  by_cases hword : a < wordSize
  · exact .inl ⟨hword, Nat.mod_eq_of_lt hword⟩
  · refine .inr ⟨by omega, ?_⟩
    rw [Nat.mod_eq_sub_mod (by omega), Nat.mod_eq_of_lt (by omega)]

namespace StreamingWindow

/-! ## What the loops leave -/

/-- Priming feeds up to `min total window`. -/
theorem primeLoop_fst (w : StreamingWindow) :
    w.primeLoop.1 = { w with nextFeed := max w.nextFeed (min w.total w.config.window) } := by
  fun_induction primeLoop w with
  | case1 w hcond t w' rest hcall ih =>
    rw [hcall] at ih
    simp only at ih ⊢
    rw [ih]
    simp only [StreamingWindow.mk.injEq, and_true, true_and]
    omega
  | case2 w hcond =>
    rw [show max w.nextFeed (min w.total w.config.window) = w.nextFeed by omega]

/-- Retiring at a position reaches every fed target below `m` whose threshold, as a word, the
position has passed. -/
theorem le_retireLoop_retired (w : StreamingWindow) (position m : Nat)
    (hreach : ∀ t, w.retired ≤ t → t < w.nextFeed → t < m →
      (t + w.config.retireMargin) % wordSize ≤ position) :
    min w.nextFeed m ≤ (w.retireLoop position).1.retired := by
  fun_induction retireLoop w position with
  | case1 w hcond t w' rest hcall ih =>
    rw [hcall] at ih
    exact ih fun u hlo hfed hm => hreach u (by simp only at hlo; omega) hfed hm
  | case2 w hcond =>
    -- the loop stopped at `retired`, so `retired` is not below both bounds
    show min w.nextFeed m ≤ w.retired
    refine Nat.le_of_not_lt fun hlt => hcond ⟨by omega, ?_⟩
    exact hreach w.retired (Nat.le_refl _) (by omega) (by omega)

/-- At step `k` of the first two words of steps, the program pointer retires every fed target at
least `retireMargin` behind step `k`. Before the word is passed the thresholds are exact; after
it, the targets left are those whose threshold has wrapped as well. -/
theorem retireLoop_lockstep (w : StreamingWindow) {k : Nat} (hk : k < 2 * wordSize)
    (htotal : w.total < wordSize) (hle : w.nextFeed ≤ w.total) (hretired : w.retired ≤ w.nextFeed)
    (hmargin : w.config.retireMargin < wordSize)
    (hpast : wordSize ≤ k → min w.total (wordSize - w.config.retireMargin) ≤ w.retired) :
    ∃ r, (w.retireLoop (k % wordSize)).1 = { w with retired := r } ∧ w.retired ≤ r ∧
      r ≤ w.nextFeed ∧ min w.nextFeed (k + 1 - w.config.retireMargin) ≤ r := by
  obtain ⟨r, hr, heq, hretire⟩ := retireLoop_spec w (k % wordSize)
  have hreach := le_retireLoop_retired w (k % wordSize) (k + 1 - w.config.retireMargin)
    fun t hlo hfed hm => by
      -- compare the threshold and the position each as itself or less one word
      have hpast' : wordSize ≤ k → wordSize ≤ t + w.config.retireMargin := fun hkw => by
        have := hpast hkw
        omega
      rcases mod_wordSize_cases hk with ⟨hkw, hkmod⟩ | ⟨hkw, hkmod⟩ <;>
      rcases mod_wordSize_cases (a := t + w.config.retireMargin) (by omega) with
        ⟨htw, htmod⟩ | ⟨htw, htmod⟩ <;> omega
  rw [heq] at hreach
  refine ⟨r, by rw [heq], hr, ?_, hreach⟩
  -- every target retired was fed
  by_cases hmore : w.retired < r
  · have := (hretire (r - 1) (by omega) (by omega)).1
    omega
  · omega

/-- Feeding at a position, once the first ring is fed, goes up to the targets in the list that
are a ring past a retired target and whose target a ring before is at least `feedMargin`
behind the position. -/
theorem feedLoop_fst (w : StreamingWindow) (position : Nat) :
    (w.feedLoop position).1 = { w with
      nextFeed := if w.nextFeed < w.config.window then w.nextFeed
        else max w.nextFeed (min w.total (min (w.config.window + w.retired)
          (w.config.window + (position + 1 - w.config.feedMargin)))) } := by
  fun_induction feedLoop w position with
  | case1 w t n hcond w' rest hcall ih =>
    rw [hcall] at ih
    simp only at ih ⊢
    rw [ih]
    simp only [StreamingWindow.mk.injEq, and_true, true_and]
    split <;> split <;> omega
  | case2 w t n hcond =>
    rw [show (if w.nextFeed < w.config.window then w.nextFeed
        else max w.nextFeed (min w.total (min (w.config.window + w.retired)
          (w.config.window + (position + 1 - w.config.feedMargin))))) = w.nextFeed by
      split <;> omega]

/-- Feeding at a position, with the first ring fed or the list used up, moves on from the
targets fed so far, stays within the list, and reaches a ring past the retired targets and a
ring past the position less `feedMargin`, or the end of the list. -/
theorem feedLoop_reaches (w : StreamingWindow) (position : Nat)
    (hring : min w.total w.config.window ≤ w.nextFeed) (hle : w.nextFeed ≤ w.total) :
    ∃ f, (w.feedLoop position).1 = { w with nextFeed := f } ∧ w.nextFeed ≤ f ∧ f ≤ w.total ∧
      min w.total (min (w.config.window + w.retired)
        (w.config.window + (position + 1 - w.config.feedMargin))) ≤ f := by
  refine ⟨_, feedLoop_fst w position, ?_⟩
  split <;> omega

/-! ## One step in lock step -/

/-- The reports of step `p`: both pointers at the row of slot `p mod window`, the program
pointer first or the motion pointer first. -/
def stepEvents (baseRow window p : Nat) (programFirst : Bool) : List WindowEvent :=
  let row := baseRow + p % window
  if programFirst then [.observe .program row, .observe .motion row]
  else [.observe .motion row, .observe .program row]

/-- Priming, then `steps` steps of both pointers going round the ring together; `programFirst p`
says which pointer reports first at step `p`. -/
def lockstep (baseRow window : Nat) (programFirst : Nat → Bool) (steps : Nat) :
    List WindowEvent :=
  .prime :: (List.range steps).flatMap fun p => stepEvents baseRow window p (programFirst p)

/-- Running one list of events after another. -/
theorem run_append_fst (w : StreamingWindow) (xs ys : List WindowEvent) :
    (w.run (xs ++ ys)).1 = ((w.run xs).1.run ys).1 := by
  induction xs generalizing w with
  | nil => rfl
  | cons e es ih => simp only [List.cons_append, run, ih]

/-- The row of slot `k mod window` is inside the ring. -/
theorem ringRow_inside (w : StreamingWindow) (k : Nat) :
    ¬ (w.baseRow + k % w.config.window < w.baseRow ∨ k % w.config.window ≥ w.config.window) := by
  have hslot := Nat.mod_lt k w.valid.1
  omega

/-- The program pointer at the row of slot `k mod window`, unwrapped from `k` rows, retires at
position `k`, as a word. -/
theorem observe_program_afterLaps {w : StreamingWindow} (hwindow : 2 ≤ w.config.window)
    {k row : Nat} (hlaps : k / w.config.window < wordSize)
    (hprogram : w.program = Unwrapper.afterLaps k w.config.window)
    (hrow : row = w.baseRow + k % w.config.window) :
    (w.observe .program row).1 =
      ({ w with program := Unwrapper.afterLaps (k + 1) w.config.window }.retireLoop
        (k % wordSize)).1 := by
  subst hrow
  simp only [observe, Nat.add_sub_cancel_left, if_neg (ringRow_inside w k), hprogram,
    Unwrapper.position_afterLaps hwindow hlaps]

/-- The motion pointer at the row of slot `k mod window`, unwrapped from `k` rows, feeds at
position `k`, as a word. -/
theorem observe_motion_afterLaps {w : StreamingWindow} (hwindow : 2 ≤ w.config.window)
    {k row : Nat} (hlaps : k / w.config.window < wordSize)
    (hmotion : w.motion = Unwrapper.afterLaps k w.config.window)
    (hrow : row = w.baseRow + k % w.config.window) :
    (w.observe .motion row).1 =
      ({ w with motion := Unwrapper.afterLaps (k + 1) w.config.window }.feedLoop
        (k % wordSize)).1 := by
  subst hrow
  simp only [observe, Nat.add_sub_cancel_left, if_neg (ringRow_inside w k), hmotion,
    Unwrapper.position_afterLaps hwindow hlaps]

/-- Where a window stands after `k` steps in lock step: both pointers unwrapped from `k` rows,
the targets up to `k - retireMargin` retired, and enough fed for the next step to retire up to
`k + 1 - retireMargin`. Once the positions have passed the word, every target is fed and the
targets left to retire are those whose threshold has wrapped too. -/
structure Lockstep (w : StreamingWindow) (k : Nat) : Prop where
  program : w.program = Unwrapper.afterLaps k w.config.window
  motion : w.motion = Unwrapper.afterLaps k w.config.window
  retired_ge : min w.total (k - w.config.retireMargin) ≤ w.retired
  retired_le : w.retired ≤ w.nextFeed
  fed_ahead : min w.total (k + 1 - w.config.retireMargin) ≤ w.nextFeed
  fed_ring : min w.total w.config.window ≤ w.nextFeed
  fed_le : w.nextFeed ≤ w.total
  past_word : wordSize ≤ k →
    w.nextFeed = w.total ∧ min w.total (wordSize - w.config.retireMargin) ≤ w.retired

/-- One step in lock step, in either order, moves the window on by one step. The margins are
what make it work: the feed margin is below the window and the retire margin at most the feed
margin, so whichever pointer reports first, the targets the program pointer reaches are fed.
The step at position `wordSize - 1` retires everything fed, whose feed then reaches the end. -/
theorem Lockstep.step {w : StreamingWindow} {k : Nat} (h : Lockstep w k)
    (hwindow : 2 ≤ w.config.window) (hword : w.config.window < wordSize)
    (htotal : w.total < wordSize) (hk : k < 2 * wordSize) (programFirst : Bool) :
    Lockstep (w.run (stepEvents w.baseRow w.config.window k programFirst)).1 (k + 1) ∧
      (w.run (stepEvents w.baseRow w.config.window k programFirst)).1.config = w.config ∧
      (w.run (stepEvents w.baseRow w.config.window k programFirst)).1.baseRow = w.baseRow ∧
      (w.run (stepEvents w.baseRow w.config.window k programFirst)).1.total = w.total := by
  obtain ⟨hprogram, hmotion, hretired, hretired_le, hahead, hring, hle, hpast⟩ := h
  have hvalid := w.valid
  unfold WindowConfig.Valid at hvalid
  have hlaps : k / w.config.window < wordSize := by
    have hroom : 2 * wordSize ≤ w.config.window * wordSize := Nat.mul_le_mul_right wordSize hwindow
    exact Nat.div_lt_of_lt_mul (Nat.lt_of_lt_of_le hk hroom)
  -- before the word the position is `k`; past it every target is fed already
  have hphase : (k < wordSize ∧ k % wordSize = k) ∨
      (wordSize ≤ k ∧ k % wordSize = k - wordSize ∧ w.nextFeed = w.total ∧
        min w.total (wordSize - w.config.retireMargin) ≤ w.retired) := by
    rcases mod_wordSize_cases hk with hbefore | ⟨hkw, hkmod⟩
    · exact .inl hbefore
    · exact .inr ⟨hkw, hkmod, hpast hkw⟩
  -- each report is followed by its loop, which moves one counter to a value the loop lemmas bound
  cases programFirst with
  | true =>
    simp only [stepEvents, if_true, StreamingWindow.run, StreamingWindow.step]
    obtain ⟨r, hretire, hr, hr_le, hr_ge⟩ := retireLoop_lockstep
      { w with program := Unwrapper.afterLaps (k + 1) w.config.window } hk htotal hle hretired_le
      (by dsimp only; omega) (fun hkw => (hpast hkw).2)
    generalize hw1 : (w.observe .program (w.baseRow + k % w.config.window)).1 = w1
    rw [observe_program_afterLaps hwindow hlaps hprogram rfl, hretire] at hw1
    rw [observe_motion_afterLaps (w := w1) (by rw [← hw1]; exact hwindow)
      (by rw [← hw1]; exact hlaps) (by rw [← hw1]; exact hmotion) (by rw [← hw1])]
    obtain ⟨f, hfeed, hf, hf_le, hf_ge⟩ := feedLoop_reaches
      { w1 with motion := Unwrapper.afterLaps (k + 1) w1.config.window } (k % wordSize)
      (by rw [← hw1]; dsimp only; omega) (by rw [← hw1]; dsimp only; omega)
    rw [hfeed]
    subst hw1
    dsimp only at hr hr_le hr_ge hf hf_le hf_ge
    clear hpast hlaps hk hword
    refine ⟨⟨rfl, rfl, ?_, ?_, ?_, ?_, ?_, fun hkw => ?_⟩, rfl, rfl, rfl⟩ <;> dsimp only <;> omega
  | false =>
    simp only [stepEvents, Bool.false_eq_true, if_false, StreamingWindow.run, StreamingWindow.step]
    obtain ⟨f, hfeed, hf, hf_le, hf_ge⟩ := feedLoop_reaches
      { w with motion := Unwrapper.afterLaps (k + 1) w.config.window } (k % wordSize) hring hle
    generalize hw1 : (w.observe .motion (w.baseRow + k % w.config.window)).1 = w1
    rw [observe_motion_afterLaps hwindow hlaps hmotion rfl, hfeed] at hw1
    obtain ⟨r, hretire, hr, hr_le, hr_ge⟩ := retireLoop_lockstep
      { w1 with program := Unwrapper.afterLaps (k + 1) w1.config.window } hk
      (by rw [← hw1]; exact htotal) (by rw [← hw1]; exact hf_le)
      (by rw [← hw1]; dsimp only at hf ⊢; omega) (by rw [← hw1]; dsimp only; omega)
      (fun hkw => by rw [← hw1]; exact (hpast hkw).2)
    rw [observe_program_afterLaps (w := w1) (by rw [← hw1]; exact hwindow)
      (by rw [← hw1]; exact hlaps) (by rw [← hw1]; exact hprogram) (by rw [← hw1]), hretire]
    subst hw1
    dsimp only at hr hr_le hr_ge hf hf_le hf_ge
    clear hpast hlaps hk hword
    refine ⟨⟨rfl, rfl, ?_, ?_, ?_, ?_, ?_, fun hkw => ?_⟩, rfl, rfl, rfl⟩ <;> dsimp only <;> omega

/-- A new window, primed, stands at step `0`. -/
theorem lockstep_prime {config : WindowConfig} {baseRow total : Nat} {w : StreamingWindow}
    (hnew : StreamingWindow.new config baseRow total = .ok w) :
    Lockstep (w.step .prime).1 0 ∧ (w.step .prime).1.config = config ∧
      (w.step .prime).1.baseRow = baseRow ∧ (w.step .prime).1.total = total := by
  unfold StreamingWindow.new at hnew
  split at hnew
  · rename_i hvalid
    cases hnew
    unfold WindowConfig.Valid at hvalid
    have hprime : (StreamingWindow.step { config, valid := hvalid, baseRow, total } .prime).1 =
        { config, valid := hvalid, baseRow, total, nextFeed := min total config.window } := by
      simp only [StreamingWindow.step, prime, primeLoop_fst, Nat.zero_max]
    rw [hprime]
    refine ⟨⟨rfl, rfl, by simp, Nat.zero_le _, by dsimp only; omega, by dsimp only; omega,
      by dsimp only; omega, fun hword => absurd hword (by decide)⟩, rfl, rfl, rfl⟩
  · split at hnew <;> cases hnew

/-- After priming and `k` steps in lock step, a window on a ring of two slots or more stands at
step `k`, for the first two words of steps. The induction is on the number of steps, each by
`Lockstep.step`. -/
theorem lockstep_run {config : WindowConfig} (hwindow : 2 ≤ config.window)
    (hword : config.window < wordSize) {baseRow total : Nat} (htotal : total < wordSize)
    {w : StreamingWindow} (hnew : StreamingWindow.new config baseRow total = .ok w)
    (programFirst : Nat → Bool) {k : Nat} (hk : k ≤ 2 * wordSize) :
    Lockstep (w.run (lockstep baseRow config.window programFirst k)).1 k ∧
      (w.run (lockstep baseRow config.window programFirst k)).1.config = config ∧
      (w.run (lockstep baseRow config.window programFirst k)).1.baseRow = baseRow ∧
      (w.run (lockstep baseRow config.window programFirst k)).1.total = total := by
  induction k with
  | zero => simpa [lockstep, StreamingWindow.run] using lockstep_prime hnew
  | succ k ih =>
    obtain ⟨hstep, hconfig, hbase, htotal'⟩ := ih (by omega)
    have hnext := hstep.step (by rw [hconfig]; exact hwindow) (by rw [hconfig]; exact hword)
      (by rw [htotal']; exact htotal) (by omega) (programFirst k)
    rw [hconfig, hbase] at hnext
    -- the run of `k + 1` steps is the run of `k` steps followed by step `k`
    have hrun : (w.run (lockstep baseRow config.window programFirst (k + 1))).1 =
        ((w.run (lockstep baseRow config.window programFirst k)).1.run
          (stepEvents baseRow config.window k (programFirst k))).1 := by
      simp only [lockstep, List.range_succ, List.flatMap_append, List.flatMap_singleton,
        ← List.cons_append, run_append_fst]
    rw [hrun]
    obtain ⟨hnext, hconfig', hbase', htotal''⟩ := hnext
    exact ⟨hnext, hconfig', hbase', htotal''.trans htotal'⟩

/-- On a ring of two slots or more, a window over a count of targets that is a word, primed and
then followed for `total + retireMargin` steps with both pointers going round the ring together,
in either order at each step, has fed and retired every target. -/
theorem lockstep_completes {config : WindowConfig} (hvalid : config.validate = .ok ())
    (hwindow : 2 ≤ config.window) (hword : config.window < wordSize) (baseRow total : Nat)
    (htotal : total < wordSize) (programFirst : Nat → Bool) :
    ∃ w, StreamingWindow.new config baseRow total = .ok w ∧
      (w.run (lockstep baseRow config.window programFirst (total + config.retireMargin))).1.fed =
        total ∧
      (w.run (lockstep baseRow config.window programFirst (total + config.retireMargin))).1.retired =
        total := by
  have hvalid' := (WindowConfig.validate_eq_ok_iff config).mp hvalid
  have hnew : StreamingWindow.new config baseRow total =
      .ok { config, valid := hvalid', baseRow, total } := by
    simp [StreamingWindow.new, hvalid']
  refine ⟨_, hnew, ?_⟩
  unfold WindowConfig.Valid at hvalid'
  obtain ⟨⟨-, -, hretired, hretired_le, hahead, -, hle, -⟩, hconfig, -, htotal'⟩ :=
    lockstep_run hwindow hword htotal hnew programFirst (k := total + config.retireMargin)
      (by omega)
  rw [hconfig, htotal'] at hretired hahead
  rw [htotal'] at hle
  exact ⟨by simp only [fed]; omega, by omega⟩

/-- A ring of two slots over five targets, margins one and one, with the motion pointer first at
odd steps. -/
theorem lockstep_completes_ring_of_two :
    let config : WindowConfig := ⟨2, 1, 1⟩
    config.validate = .ok () ∧ 2 ≤ config.window ∧ config.window < wordSize ∧ 5 < wordSize ∧
      ∃ w, StreamingWindow.new config 10 5 = .ok w ∧
        (w.run (lockstep 10 config.window (fun p => p % 2 == 0) (5 + config.retireMargin))).1.fed =
          5 ∧
        (w.run (lockstep 10 config.window (fun p => p % 2 == 0) (5 + config.retireMargin))).1.retired =
          5 :=
  ⟨rfl, by decide, by decide, by decide,
    lockstep_completes rfl (by decide) (by decide) 10 5 (by decide) fun p => p % 2 == 0⟩

/-- A ring of one slot over two targets, margins zero: after two steps in lock step the second
target is fed and never retired. -/
theorem lockstep_stalls_on_one_slot :
    let config : WindowConfig := ⟨1, 0, 0⟩
    config.validate = .ok () ∧
      ∃ w, StreamingWindow.new config 0 2 = .ok w ∧
        (w.run (lockstep 0 config.window (fun _ => true) (2 + config.retireMargin))).1.fed = 2 ∧
        (w.run (lockstep 0 config.window (fun _ => true) (2 + config.retireMargin))).1.retired = 1 :=
  ⟨rfl, ⟨⟨1, 0, 0⟩, by decide, 0, 2, 0, 0, {}, {}⟩, rfl, by decide +kernel, by decide +kernel⟩

end StreamingWindow

end RobotProgram
