import RobotProgram.Controller.Deploy
/-!
# RobotProgram.Controller.Scenario

A scenario drives a station through a list of commands and records, for each, what it answered
and how the session and the controller looked afterwards.

A command is a single step or a scope holding a body of commands: a mastership scope or a logon
scope. Commands at the top run one after another whatever each answers. A body ends at its
first failing command, and that failure is the scope's answer (unless the scope itself fails
earlier, on entry); the scope's record holds the records of the body's commands that ran, and
its snapshot is taken after the scope has closed.

Steps are of five kinds: controls of the simulated controller (reachability, credentials, mode,
injected failures, pointer events), raw controller calls that bypass the session's checks,
local file operations, session operations and workflows, and position trackers.
-/

namespace RobotProgram

/-- One operation of a scenario. -/
inductive Step where
  | setReachable (reachable : Bool)
  | setCredentials (user : UserInfo)
  | setMode (mode : OperatingMode)
  | rejectNextLoad (reason : String)
  | failNextRelease
  | setCurrentPosition (pose : CartesianPose) (joints : JointPose)
  | emitPointer (event : PointerEvent)
  | storedFile (name : String)
  | dataValue (module name : String)
  /-- Logs on directly; a user or password left out is the factory one, not the session's. -/
  | rawLogon (handle : ControllerHandle) (user password : Option String)
  | rawLogoff
  | rawRequestMastership
  | rawReleaseMastership
  | rawStart
  | rawResetProgramPointer
  | rawPutFile (path remote : String) (overwrite : Bool)
  | rawLoadModule (remote : String) (mode : LoadMode)
  | rawLoadProgram (remote : String) (mode : LoadMode)
  | rawSetData (module name value : String)
  | rawGetData (module name : String)
  | writeFile (path : String) (bytes : ByteArray)
  | makeDirectory (path : String)
  | writeProgramFiles (files : ProgramFiles) (text : String)
  | readModule (path : String)
  | writeModule (path text : String)
  | logon (handle : ControllerHandle)
  | logoff
  | state
  | sessionHandle
  | operatingMode
  | uploadModule (path : String) (mode : LoadMode)
  | uploadProgram (path : String)
  | startExecution
  | writeNamedValue (module name : String) (value : DataValue)
  | writeNamedText (module name text : String)
  | readNamedValue (module name : String)
  | searchData (module : String)
  | setProgramPointer (module : String) (row : Nat)
  | programPointer
  | currentPosition
  | sendProgram (files : ProgramFiles) (handle : ControllerHandle)
  | sendTarget (module name text : String) (handle : ControllerHandle)
  | setPointer (module : String) (row : Nat) (handle : ControllerHandle)
  | readTargetData (module : String) (handle : ControllerHandle)
  | readProgramData (module : String) (handle : ControllerHandle)
  | currentPositionOn (handle : ControllerHandle)
  | trackerAttach (tracker : String)
  | trackerDetach (tracker : String)
  | trackerAttached (tracker : String)
  | trackerSamples (tracker : String) (since : Nat)
  | trackerLatest (tracker : String) (kind : PointerKind)

/-- A step, or a scope around a body of commands. -/
inductive Command where
  | step (op : String) (s : Step)
  | withMastership (body : List Command)
  | withLogon (handle : ControllerHandle) (body : List Command)

/-- The name a command is recorded under. -/
def Command.op : Command → String
  | .step op _ => op
  | .withMastership _ => "with_mastership"
  | .withLogon _ _ => "with_logon"

/-- What a step answers when it succeeds. -/
inductive Reply where
  | none
  | text (s : String)
  | flag (b : Bool)
  | count (n : Nat)
  | optionalText (s : Option String)
  | item (d : Option DataItem)
  | items (ds : List DataItem)
  | pointer (p : Option ProgramPosition)
  | position (pose : CartesianPose) (joints : JointPose)
  | value (v : DataValue)
  | targets (t : TargetData)
  | programData (entries : List ProgramDataEntry)
  | files (f : ProgramFiles)
  | samples (ss : List PointerSample)
  | sample (s : Option PointerSample)

/-- How the session and the controller look. -/
structure Snapshot where
  state : SessionState
  loggedOn : Bool
  mastership : Bool
  grants : Nat
  running : Bool
  modules : List String
  program : Option String

/-- The snapshot of a station. -/
def Station.snapshot (s : Station) : Snapshot where
  state := s.session.state
  loggedOn := s.controller.loggedOn
  mastership := s.controller.mastership
  grants := s.controller.mastershipGrants
  running := s.controller.running
  modules := s.controller.modules.map (·.name)
  program := s.controller.program

/-- What a command did: its answer, the records of a scope's body, and the snapshot after it. -/
structure Record where
  op : String
  result : Except Error Reply
  body : Option (List Record)
  after : Snapshot

namespace Station

open RobotProgram.Action

/-! ## Trackers -/

/-- The tracker of that name; a new one if there is none yet. -/
def tracker (s : Station) (name : String) : Tracker :=
  (s.trackers.lookup name).getD {}

/-- Replaces the tracker of that name, or adds it. -/
def setTracker (name : String) (t : Tracker) : Action Unit :=
  modify fun s =>
    if s.trackers.any (·.1 == name) then
      { s with trackers := s.trackers.map fun p => if p.1 == name then (name, t) else p }
    else { s with trackers := s.trackers ++ [(name, t)] }

/-- Attaches a tracker to the session's pointer events: the session must be logged on and the
tracker detached. -/
def attachTracker (name : String) : Action Unit := do
  requireConnected "subscribe pointers"
  let t ← result ((← get).tracker name).attach
  setTracker name t

/-- Detaches a tracker; its log stays. -/
def detachTracker (name : String) : Action Unit := do
  let t := (← get).tracker name
  setTracker name t.detach

/-- The controller announces a pointer event: the program pointer follows a program event and
every attached tracker records it. The answer is the number of trackers that received it. -/
def emitPointer (e : PointerEvent) : Action Nat := fun s =>
  ({ s with controller := s.controller.notePointer e,
            trackers := s.trackers.map fun p => (p.1, p.2.receive e) },
   .ok (s.trackers.countP (·.2.attached)))

/-! ## Steps -/

/-- Changes the controller without any check. -/
def control (f : SimController → SimController) : Action Reply := fun s =>
  ({ s with controller := f s.controller }, .ok .none)

/-- A local file's text for the controller to copy; faults are I/O errors. -/
def localText (s : Station) (path : String) : Except Error String :=
  (s.files.readText path).mapError fun f => .io f.text

/-- Changes the local files by an operation that may fail, with faults as I/O errors. -/
def changeFiles (f : LocalFiles → Except FileFault LocalFiles) : Action Reply := fun s =>
  match f s.files with
  | .ok fs => ({ s with files := fs }, .ok .none)
  | .error e => (s, .error (.io e.text))

/-- Runs one step. -/
def runStep : Step → Action Reply
  | .setReachable b => control fun c => { c with reachable := b }
  | .setCredentials u => control fun c => { c with credentials := u }
  | .setMode m => control fun c => { c with mode := m }
  | .rejectNextLoad reason => control fun c => { c with rejectNextLoad := some reason }
  | .failNextRelease => control fun c => { c with failNextRelease := true }
  | .setCurrentPosition pose joints =>
    control fun c => { c with robtarget := pose, jointtarget := joints }
  | .emitPointer e => Reply.count <$> emitPointer e
  | .storedFile name => do pure (.optionalText ((← get).controller.storedFile name))
  | .dataValue module name => do pure (.optionalText ((← get).controller.dataValue module name))
  | .rawLogon handle user password => do
    let factory : UserInfo := {}
    let u : UserInfo := ⟨user.getD factory.name, password.getD factory.password⟩
    changeController fun c => c.logon handle u
    pure .none
  | .rawLogoff => control SimController.logoff
  | .rawRequestMastership => do changeController SimController.requestMastership; pure .none
  | .rawReleaseMastership => do stepController SimController.releaseMastership; pure .none
  | .rawStart => do changeController SimController.start; pure .none
  | .rawResetProgramPointer => do changeController SimController.resetProgramPointer; pure .none
  | .rawPutFile path remote overwrite => do
    let s ← get
    changeController fun c => c.putFile (s.localText path) remote overwrite
    pure .none
  | .rawLoadModule remote mode => do stepController (·.loadModule remote mode); pure .none
  | .rawLoadProgram remote mode => do stepController (·.loadProgram remote mode); pure .none
  | .rawSetData module name value => do
    changeController (·.setData module name value); pure .none
  | .rawGetData module name => Reply.item <$> askController (·.getData module name)
  | .writeFile path bytes => changeFiles (·.writeBytes path bytes)
  | .makeDirectory path => changeFiles (·.createDirAll path)
  | .writeProgramFiles files text => do writeProgramFiles files text; pure (.files files)
  | .readModule path => Reply.text <$> readModule path
  | .writeModule path text => do writeLocal path text; pure .none
  | .logon handle => do logon handle; pure .none
  | .logoff => do logoff; pure .none
  | .state => do pure (.text (← get).session.state.name)
  | .sessionHandle => do pure (.optionalText ((← get).session.handle.map ControllerHandle.text))
  | .operatingMode => do pure (.text (← operatingMode).name)
  | .uploadModule path mode => do uploadModule path mode; pure .none
  | .uploadProgram path => do uploadProgram path; pure .none
  | .startExecution => do startExecution; pure .none
  | .writeNamedValue module name v => do writeNamedValue module name v; pure .none
  | .writeNamedText module name text => do writeNamedText module name text; pure .none
  | .readNamedValue module name => Reply.value <$> readNamedValue module name
  | .searchData module => Reply.items <$> searchData module
  | .setProgramPointer module row => do setProgramPointer module row; pure .none
  | .programPointer => Reply.pointer <$> programPointer
  | .currentPosition => do let (p, j) ← currentPosition; pure (.position p j)
  | .sendProgram files handle => do sendProgram handle files; pure .none
  | .sendTarget module name text handle => do sendTarget handle module name text; pure .none
  | .setPointer module row handle => do setPointer handle module row; pure .none
  | .readTargetData module handle => Reply.targets <$> readTargetData handle module
  | .readProgramData module handle => Reply.programData <$> readProgramData handle module
  | .currentPositionOn handle => do let (p, j) ← currentPositionOn handle; pure (.position p j)
  | .trackerAttach name => do attachTracker name; pure .none
  | .trackerDetach name => do detachTracker name; pure .none
  | .trackerAttached name => do pure (.flag ((← get).tracker name).attached)
  | .trackerSamples name start => do pure (.samples (((← get).tracker name).since start))
  | .trackerLatest name kind => do pure (.sample (((← get).tracker name).latest kind))

/-- Runs one step as the bench does. Its own steps (writing a file, making a directory,
detaching a tracker) are not the library's: when one of them fails the whole run ends, with
the operating system's text or the tracker's complaint. Every other step answers for
itself. -/
def perform (st : Step) (s : Station) : Except String (Station × Except Error Reply) :=
  let withFiles (r : Except FileFault LocalFiles) :=
    match r with
    | .ok fs => .ok ({ s with files := fs }, .ok .none)
    | .error e => .error e.text
  match st with
  | .writeFile path bytes => withFiles (s.files.writeBytes path bytes)
  | .makeDirectory path => withFiles (s.files.createDirAll path)
  | .trackerDetach name =>
    if (s.tracker name).attached then .ok (runStep st s) else .error "tracker not attached"
  | _ => .ok (runStep st s)

/-! ## Commands -/

mutual

/-- Runs a command and records it; a failing bench step ends the run. -/
def runCommand (s : Station) : Command → Except String (Station × Record)
  | .step op st => do
    let (s', r) ← perform st s
    pure (s', ⟨op, r, none, s'.snapshot⟩)
  | .withMastership body =>
    match enterMastership s with
    | (s1, .error e) => pure (s1, ⟨"with_mastership", .error e, some [], s1.snapshot⟩)
    | (s1, .ok ()) => do
      let (s2, records, r) ← runBody s1 body
      let (s3, r') := exitMastership r s2
      pure (s3, ⟨"with_mastership", r'.map fun () => .none, some records, s3.snapshot⟩)
  | .withLogon handle body =>
    match logon handle s with
    | (s1, .error e) => pure (s1, ⟨"with_logon", .error e, some [], s1.snapshot⟩)
    | (s1, .ok ()) => do
      let (s2, records, r) ← runBody s1 body
      let (s3, _) := logoff s2
      pure (s3, ⟨"with_logon", r.map fun () => .none, some records, s3.snapshot⟩)

/-- Runs a scope's body up to its first failing command. -/
def runBody (s : Station) :
    List Command → Except String (Station × List Record × Except Error Unit)
  | [] => pure (s, [], .ok ())
  | c :: cs => do
    let (s1, record) ← runCommand s c
    match record.result with
    | .error e => pure (s1, [record], .error e)
    | .ok _ =>
      let (s2, records, r) ← runBody s1 cs
      pure (s2, record :: records, r)

end

/-- Runs every command in turn, whatever each answers. -/
def runAll (s : Station) : List Command → Except String (Station × List Record)
  | [] => pure (s, [])
  | c :: cs => do
    let (s1, record) ← runCommand s c
    let (s2, records) ← runAll s1 cs
    pure (s2, record :: records)

end Station

/-- Runs a scenario on a fresh station with the given (disconnected) session: the records of
its commands, or why the bench gave up. -/
def runScenario (session : Session) (commands : List Command) : Except String (List Record) :=
  (Station.runAll { session } commands).map (·.2)

end RobotProgram
