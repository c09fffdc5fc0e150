import RobotProgram.Tracking.Tracker
/-!
# RobotProgram.Tracking.Window

Streaming a long list of targets through a ring of `window` slots on the controller. The
controller executes rows `base, base + 1, …, base + window - 1` in a loop; target `t` lives in
slot `t mod window`.

* Priming feeds the first `min total window` targets.
* The program pointer retires targets: at unwrapped position `p`, every fed target `t` with
  `p ≥ t + retireMargin` is retired, in order.
* The motion pointer feeds targets: at unwrapped position `p`, target `t ≥ window` is fed when
  `t - window` is retired and `p ≥ t - window + feedMargin`, in order, while targets remain.

A pointer reports a row; its offset in the ring is unwrapped into a position that grows by one
lap each time the offset goes backwards. Rows outside the ring are ignored.

Counters, positions and thresholds are machine words of `wordSize` values. Three sums can pass
the word and wrap round: the lap count, the position `laps * window + offset`, and the retire
threshold `retired + retireMargin`. The others stay below the number of targets.

A configuration is usable when the ring has a slot, the feed margin is below the window and
the retire margin is at most the feed margin.
-/

namespace RobotProgram

/-- The size of the ring and the two margins. -/
structure WindowConfig where
  window : Nat := 8
  feedMargin : Nat := 2
  retireMargin : Nat := 1
deriving Repr, DecidableEq, Inhabited

namespace WindowConfig

/-- The rules of a usable configuration. -/
def Valid (c : WindowConfig) : Prop :=
  0 < c.window ∧ c.feedMargin < c.window ∧ c.retireMargin ≤ c.feedMargin

instance (c : WindowConfig) : Decidable c.Valid := by
  unfold Valid; exact inferInstance

/-- Checks the rules in order and names the first one broken. -/
def validate (c : WindowConfig) : Except Error Unit :=
  if c.window = 0 then .error (.configuration "streaming window must have at least one slot")
  else if c.feedMargin ≥ c.window then
    .error (.configuration
      s!"feed_margin ({c.feedMargin}) must be smaller than the window ({c.window})")
  else if c.retireMargin > c.feedMargin then
    .error (.configuration
      s!"retire_margin ({c.retireMargin}) must not exceed feed_margin ({c.feedMargin})")
  else .ok ()

/-- Validation passes exactly on usable configurations. -/
theorem validate_eq_ok_iff (c : WindowConfig) : c.validate = .ok () ↔ c.Valid := by
  unfold validate Valid
  -- one case per rule, in the order validation checks them
  by_cases hwindow : c.window = 0
  · simp [hwindow]
  by_cases hfeed : c.feedMargin ≥ c.window
  · simp only [hwindow, hfeed, if_true, if_false, reduceCtorEq, false_iff]
    omega
  by_cases hretire : c.retireMargin > c.feedMargin
  · simp only [hwindow, hfeed, hretire, if_true, if_false, reduceCtorEq, false_iff]
    omega
  · simp only [hwindow, hfeed, hretire, if_false, true_iff]
    omega

end WindowConfig

/-- What the window asks of the controller: fill a slot with a target, or free it. -/
inductive StreamAction where
  | feed (slot target : Nat)
  | retire (slot target : Nat)
deriving Repr, DecidableEq, Inhabited

/-- Turns ring offsets into positions that keep growing: one lap is added each time the
offset goes backwards. -/
structure Unwrapper where
  lastOffset : Option Nat := none
  laps : Nat := 0
deriving Repr, DecidableEq, Inhabited

/-- The number of values of a machine word, `2 ^ 64`. A sum of words that reaches it wraps
round. -/
def wordSize : Nat := 18446744073709551616

/-- The position of an offset, and the unwrapper after it. The lap count and the position are
words, reduced modulo `wordSize`. -/
def Unwrapper.position (u : Unwrapper) (offset window : Nat) : Unwrapper × Nat :=
  let laps := match u.lastOffset with
    | some last => if offset < last then (u.laps + 1) % wordSize else u.laps
    | none => u.laps
  (⟨some offset, laps⟩, (laps * window + offset) % wordSize)

/-- The state of a streaming window. -/
structure StreamingWindow where
  config : WindowConfig
  valid : config.Valid
  baseRow : Nat
  total : Nat
  /-- The next target to feed; also the number fed so far. -/
  nextFeed : Nat := 0
  /-- The number of targets retired so far. -/
  retired : Nat := 0
  program : Unwrapper := {}
  motion : Unwrapper := {}

namespace StreamingWindow

/-- A window over `total` targets with its ring at `baseRow`, if the configuration is
usable. -/
def new (config : WindowConfig) (baseRow total : Nat) : Except Error StreamingWindow :=
  if h : config.Valid then .ok { config, valid := h, baseRow, total }
  else match config.validate with
    | .error e => .error e
    | .ok () => .error (.configuration "invalid streaming window")

/-- Feeds the next targets while fewer than `min total window` are fed. -/
def primeLoop (w : StreamingWindow) : StreamingWindow × List StreamAction :=
  if w.nextFeed < min w.total w.config.window then
    let t := w.nextFeed
    let (w', rest) := primeLoop { w with nextFeed := t + 1 }
    (w', .feed (t % w.config.window) t :: rest)
  else (w, [])
termination_by min w.total w.config.window - w.nextFeed

/-- Retires targets while one is fed and the position is at least `retireMargin` past it. The
threshold is a word and wraps round; `retired` itself stays below `nextFeed`. -/
def retireLoop (w : StreamingWindow) (position : Nat) : StreamingWindow × List StreamAction :=
  if w.retired < w.nextFeed ∧ position ≥ (w.retired + w.config.retireMargin) % wordSize then
    let t := w.retired
    let (w', rest) := retireLoop { w with retired := t + 1 } position
    (w', .retire (t % w.config.window) t :: rest)
  else (w, [])
termination_by w.nextFeed - w.retired

/-- Feeds targets past the first ring while some remain, the target a lap before is retired,
and the position is at least `feedMargin` past that target's row. No sum here wraps: the
threshold `t - window + feedMargin` is below `t`, as the feed margin is below the window, and
`t` is below `total`. -/
def feedLoop (w : StreamingWindow) (position : Nat) : StreamingWindow × List StreamAction :=
  let t := w.nextFeed
  let n := w.config.window
  if t < w.total ∧ t ≥ n ∧ t - n < w.retired ∧ position ≥ t - n + w.config.feedMargin then
    let (w', rest) := feedLoop { w with nextFeed := t + 1 } position
    (w', .feed (t % n) t :: rest)
  else (w, [])
termination_by w.total - w.nextFeed

/-- Fills the ring with the first targets. -/
def prime (w : StreamingWindow) : StreamingWindow × List StreamAction := w.primeLoop

/-- Follows a pointer report: rows outside the ring are ignored; the program pointer retires
targets and the motion pointer feeds them. -/
def observe (w : StreamingWindow) (kind : PointerKind) (row : Nat) :
    StreamingWindow × List StreamAction :=
  if row < w.baseRow ∨ row - w.baseRow ≥ w.config.window then (w, [])
  else
    let offset := row - w.baseRow
    match kind with
    | .program =>
      let (u, position) := w.program.position offset w.config.window
      retireLoop { w with program := u } position
    | .motion =>
      let (u, position) := w.motion.position offset w.config.window
      feedLoop { w with motion := u } position

/-- The number of targets fed. -/
def fed (w : StreamingWindow) : Nat := w.nextFeed

/-- Every target has been retired. -/
def isComplete (w : StreamingWindow) : Bool := w.retired == w.total

end StreamingWindow

/-- An event a window follows: priming, or a pointer report. -/
inductive WindowEvent where
  | prime
  | observe (kind : PointerKind) (row : Nat)
deriving Repr, DecidableEq, Inhabited

/-- One event applied to a window. -/
def StreamingWindow.step (w : StreamingWindow) : WindowEvent → StreamingWindow × List StreamAction
  | .prime => w.prime
  | .observe kind row => w.observe kind row

end RobotProgram
