import RobotProgram.Controller.Simulated
import RobotProgram.Controller.Value
import RobotProgram.LocalFiles
import RobotProgram.Tracking.Tracker
/-!
# RobotProgram.Controller.Session

A client session with one controller, and the station it works in: the local files, the
simulated controller, the session itself and the position trackers.

The session is `Disconnected`, `LoggedOn` or `MastershipHeld`. Each operation names the state
it needs and is refused in any other, before anything happens. Mastership is only held inside a
scope (`withMastership`): it is taken on entry and given back on exit whatever the body did,
and the session is `LoggedOn` afterwards. The body's error wins over an error giving mastership
back; a release error after a body that succeeded is the scope's answer.

An action on the station gives the station after it and a result; a failure keeps what was
changed before it.
-/

namespace RobotProgram

/-- Where a session is. -/
inductive SessionState where
  | disconnected
  | loggedOn
  | mastershipHeld
deriving Repr, DecidableEq, Inhabited

/-- The name of a session state. -/
def SessionState.name : SessionState → String
  | .disconnected => "Disconnected"
  | .loggedOn => "LoggedOn"
  | .mastershipHeld => "MastershipHeld"

/-- A session: who logs on, to which task, where it is, and the controller it is on. -/
structure Session where
  user : UserInfo := {}
  task : String := "T_ROB1"
  state : SessionState := .disconnected
  handle : Option ControllerHandle := none
deriving Inhabited

/-- Everything a client program works with. -/
structure Station where
  files : LocalFiles := {}
  controller : SimController := {}
  session : Session := {}
  trackers : List (String × Tracker) := []
deriving Inhabited

/-- An action on a station: the station after it, and its result. -/
def Action (α : Type) : Type := Station → Station × Except Error α

namespace Action

instance : Monad Action where
  pure a := fun s => (s, .ok a)
  bind x f := fun s =>
    match x s with
    | (s', .ok a) => f a s'
    | (s', .error e) => (s', .error e)

instance : MonadExceptOf Error Action where
  throw e := fun s => (s, .error e)
  tryCatch x h := fun s =>
    match x s with
    | (s', .error e) => h e s'
    | r => r

@[simp] theorem pure_apply {α : Type} (a : α) (s : Station) :
    (pure a : Action α) s = (s, .ok a) := rfl

@[simp] theorem bind_apply {α β : Type} (x : Action α) (f : α → Action β) (s : Station) :
    (x >>= f) s = match x s with
      | (s', .ok a) => f a s'
      | (s', .error e) => (s', .error e) := rfl

@[simp] theorem throw_apply {α : Type} (e : Error) (s : Station) :
    (throw e : Action α) s = (s, .error e) := rfl

/-- Runs an action and hands back its result, success or failure, without failing. -/
def attempt {α : Type} (x : Action α) : Action (Except Error α) := fun s =>
  let (s', r) := x s
  (s', .ok r)

/-- Fails with the error or goes on with the value. -/
def result {α : Type} (r : Except Error α) : Action α := fun s => (s, r)

/-- The station. -/
def get : Action Station := fun s => (s, .ok s)

/-- Changes the station. -/
def modify (f : Station → Station) : Action Unit := fun s => (f s, .ok ())

end Action

namespace Station

open RobotProgram.Action

/-- Reads something of the controller that may fail. -/
def askController {α : Type} (f : SimController → Except Error α) : Action α := fun s =>
  (s, f s.controller)

/-- Changes the controller by an operation that may fail and then changes nothing. -/
def changeController (f : SimController → Except Error SimController) : Action Unit := fun s =>
  match f s.controller with
  | .ok c => ({ s with controller := c }, .ok ())
  | .error e => (s, .error e)

/-- Runs a controller operation that changes it even when it fails. -/
def stepController (f : SimController → SimController × Except Error Unit) : Action Unit := fun s =>
  let (c, r) := f s.controller
  ({ s with controller := c }, r)

/-- Sets the session state. -/
def setState (state : SessionState) : Action Unit :=
  modify fun s => { s with session := { s.session with state } }

/-- The session must be in the given state for the named operation. -/
def require (operation : String) (required : SessionState) : Action Unit := fun s =>
  if s.session.state = required then (s, .ok ())
  else (s, .error (.invalidSessionState operation required.name s.session.state.name))

/-- The session must be logged on, with or without mastership, for the named operation. -/
def requireConnected (operation : String) : Action Unit := fun s =>
  if s.session.state = .disconnected then
    (s, .error (.invalidSessionState operation "LoggedOn" s.session.state.name))
  else (s, .ok ())

/-- Logs on to a controller. -/
def logon (handle : ControllerHandle) : Action Unit := do
  require "logon" .disconnected
  let s ← get
  changeController fun c => c.logon handle s.session.user
  modify fun s => { s with session := { s.session with state := .loggedOn, handle := some handle } }

/-- Logs off: gives mastership back if held (a failure is ignored), logs off and forgets the
controller. Nothing happens when disconnected. -/
def logoff : Action Unit := do
  let s ← get
  if s.session.state = .disconnected then return
  if s.session.state = .mastershipHeld then
    let _ ← attempt (stepController SimController.releaseMastership)
  modify fun s => { s with controller := s.controller.logoff,
                           session := { s.session with state := .disconnected, handle := none } }

/-- Logs on, runs the body, and logs off whatever the body did; the body's result is the
answer. A failed logon is the answer and nothing else runs. -/
def withLogon {α : Type} (handle : ControllerHandle) (body : Action α) : Action α := do
  logon handle
  let r ← attempt body
  logoff
  result r

/-- Takes mastership: only from `LoggedOn`, and only if the controller grants it. -/
def enterMastership : Action Unit := do
  require "acquire mastership" .loggedOn
  changeController SimController.requestMastership
  setState .mastershipHeld

/-- Gives mastership back after a body with result `r` and returns to `LoggedOn`. The body's
error wins over a release error; a release error after a body that succeeded is the answer. -/
def exitMastership {α : Type} (r : Except Error α) : Action α := do
  let released ← attempt (stepController SimController.releaseMastership)
  setState .loggedOn
  match r, released with
  | .ok v, .ok () => pure v
  | .ok _, .error e => throw e
  | .error e, _ => throw e

/-- Takes mastership, runs the body and gives mastership back; the session is `LoggedOn`
afterwards whatever the body did. -/
def withMastership {α : Type} (body : Action α) : Action α := do
  enterMastership
  let r ← attempt body
  exitMastership r

/-- The controller's operating mode. -/
def operatingMode : Action OperatingMode := do
  requireConnected "operating mode"
  askController SimController.operatingMode

/-- The local path must exist: a missing one is reported as such, other faults as I/O
errors. -/
def requireLocalFile (path : String) : Action Unit := fun s =>
  match s.files.metadata path with
  | .ok () => (s, .ok ())
  | .error .notFound => (s, .error (.fileNotFound path))
  | .error f => (s, .error (.io f.text))

/-- The text of a local file, with faults as I/O errors. -/
def readLocal (path : String) : Action String := fun s =>
  (s, (s.files.readText path).mapError fun f => .io f.text)

/-- Copies a local file to the controller's storage under its file name, which it returns. -/
def transfer (operation : String) (path : String) : Action String := do
  requireLocalFile path
  require operation .mastershipHeld
  let some remote := fileName? path | throw (.fileNotFound path)
  let s ← get
  changeController fun c => c.putFile ((s.files.readText path).mapError fun f => .io f.text)
    remote true
  pure remote

/-- Uploads a module file and loads it. -/
def uploadModule (path : String) (mode : LoadMode) : Action Unit := do
  let remote ← transfer "upload module" path
  stepController fun c => c.loadModule remote mode

/-- Uploads a program file and loads it in place of what is loaded. -/
def uploadProgram (path : String) : Action Unit := do
  let remote ← transfer "upload program" path
  stepController fun c => c.loadProgram remote .replace

/-- Starts execution from the beginning of `main`, in automatic mode only. -/
def startExecution : Action Unit := do
  require "start execution" .mastershipHeld
  let mode ← askController SimController.operatingMode
  if mode != .auto then throw (.modeError mode)
  changeController SimController.resetProgramPointer
  changeController SimController.start

/-- The data item of that name in a module. -/
def lookup (module name : String) : Action DataItem := do
  match ← askController fun c => c.getData module name with
  | some d => pure d
  | none => throw (.symbolNotFound module name)

/-- Writes a value to a data item whose declared type it fits. -/
def writeNamedValue (module name : String) (value : DataValue) : Action Unit := do
  require "write named value" .mastershipHeld
  let current ← lookup module name
  if !value.fits current.dataType then
    throw (.typeMismatch name current.dataType value.dataType)
  changeController fun c => c.setData module name value.text

/-- Reads a value from its text and writes it. -/
def writeNamedText (module name text : String) : Action Unit := do
  let value ← result (DataValue.parse text)
  writeNamedValue module name value

/-- Reads a data item as a value of its declared type. -/
def readNamedValue (module name : String) : Action DataValue := do
  requireConnected "read named value"
  let d ← lookup module name
  result (DataValue.parseAs d.dataType d.value)

/-- The data items of a module. -/
def searchData (module : String) : Action (List DataItem) := do
  requireConnected "search data"
  askController fun c => c.searchData module

/-- Moves the program pointer. -/
def setProgramPointer (module : String) (row : Nat) : Action Unit := do
  require "set program pointer" .mastershipHeld
  changeController fun c => c.setProgramPointer module row

/-- The program pointer. -/
def programPointer : Action (Option ProgramPosition) := do
  requireConnected "program pointer"
  askController SimController.programPointer

/-- The current position, Cartesian and in joints. -/
def currentPosition : Action (CartesianPose × JointPose) := do
  requireConnected "current position"
  let pose ← askController SimController.currentRobtarget
  let joints ← askController SimController.currentJointtarget
  pure (pose, joints)

end Station

end RobotProgram
