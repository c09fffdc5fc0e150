import RobotProgram.Error
/-!
# RobotProgram.Tracking.Tracker

Where a task is. The program pointer marks the instruction the task executes next; the motion
pointer marks the move the robot is executing. A controller announces each change of either
pointer as an event naming the module and row.

A position tracker records the pointer events of a controller in a log. Attaching subscribes a
receiver to the controller's pointer channel and starts the tracker task. The controller queues
each event it announces on every receiver; the task takes the events from its receiver one at a
time and appends each to the log as a sample numbered by its place there. The channel keeps at
most `channelCapacity` undelivered events for a receiver, and a receiver that falls further
behind loses the oldest. Detaching lets the task record what its receiver still holds, then
stops it. The log only grows: attaching again later appends after what is there.
-/

namespace RobotProgram

/-- Which pointer an event is about. -/
inductive PointerKind where
  | program
  | motion
deriving Repr, DecidableEq, Inhabited

/-- The name of a pointer kind. -/
def PointerKind.name : PointerKind → String
  | .program => "Program"
  | .motion => "Motion"

/-- A pointer moved to a row of a module. -/
structure PointerEvent where
  kind : PointerKind
  module : String
  row : Nat
deriving Repr, DecidableEq, Inhabited

/-- The program pointer: module, routine and row. -/
structure ProgramPosition where
  module : String
  routine : String
  row : Nat
deriving Repr, DecidableEq, Inhabited

/-- One recorded pointer event, numbered from zero in log order. -/
structure PointerSample where
  seq : Nat
  kind : PointerKind
  module : String
  row : Nat
deriving Repr, DecidableEq, Inhabited

/-- A tracker: its log, whether it is attached, and the events its receiver holds that the task
has not recorded yet, oldest first. -/
structure Tracker where
  log : List PointerSample := []
  attached : Bool := false
  pending : List PointerEvent := []
deriving Repr, Inhabited

namespace Tracker

/-- How many undelivered events the controller's pointer channel keeps for one receiver. -/
def channelCapacity : Nat := 1024

/-- The controller announces an event: an attached tracker's receiver queues it, and loses its
oldest event when it holds `channelCapacity` already. -/
def offer (t : Tracker) (e : PointerEvent) : Tracker :=
  if t.attached then
    { t with pending := (t.pending ++ [e]).drop (t.pending.length + 1 - channelCapacity) }
  else t

/-- Appends an event to the log, numbered by its place there. -/
def record (t : Tracker) (e : PointerEvent) : Tracker :=
  { t with log := t.log ++ [⟨t.log.length, e.kind, e.module, e.row⟩] }

/-- One step of the tracker task: it takes the oldest event its receiver holds and records it. -/
def recv (t : Tracker) : Tracker :=
  match t.pending with
  | [] => t
  | e :: rest => { t with pending := rest }.record e

/-- The task records everything its receiver holds, oldest first. -/
def drain (t : Tracker) : Tracker :=
  t.pending.foldl record { t with pending := [] }

/-- Attaches a new receiver, holding nothing yet; refused while attached. -/
def attach (t : Tracker) : Except Error Tracker :=
  if t.attached then .error (.invalidSessionState "attach tracker" "detached tracker" "attached")
  else .ok { t with attached := true, pending := [] }

/-- Detaches: the task records what its receiver still holds, then stops. -/
def detach (t : Tracker) : Tracker := { t.drain with attached := false }

/-- An event announced while the task keeps up with its receiver: queued, then recorded. -/
def receive (t : Tracker) (e : PointerEvent) : Tracker := (t.offer e).drain

/-- The samples from number `start` on. -/
def since (t : Tracker) (start : Nat) : List PointerSample := t.log.drop start

/-- The last sample of a kind. -/
def latest (t : Tracker) (kind : PointerKind) : Option PointerSample :=
  t.log.reverse.find? (·.kind == kind)

end Tracker

end RobotProgram
