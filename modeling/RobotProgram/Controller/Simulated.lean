import RobotProgram.Controller.Handle
import RobotProgram.Tracking.Tracker
import RobotProgram.Controller.Scan
import RobotProgram.Motion.Pose
import RobotProgram.Error
/-!
# RobotProgram.Controller.Simulated

A controller simulated in memory, with the operations a client uses over the network: log on
and off, take and give back mastership (the right to change the controller), store files,
load programs and modules, read and write data, move the program pointer, start execution,
and read the current position.

Every operation that changes programs, data, the pointer or execution needs mastership, and
mastership needs a logged-on client. A failing operation changes nothing, with three
exceptions: a load that has mastership uses up a pending rejection; giving back mastership
always drops it; and it uses up a pending release failure.

Failures can be injected: the controller can be unreachable, expect other credentials, be in
another operating mode, reject the next load, or time out on the next release.
-/

namespace RobotProgram

/-- How a loaded module or program relates to what is loaded already. -/
inductive LoadMode where
  /-- Alongside the loaded modules; a module of the same name is refused. -/
  | add
  /-- In place of what is loaded. -/
  | replace
deriving Repr, DecidableEq, Inhabited

/-- The state of a simulated controller. -/
structure SimController where
  reachable : Bool := true
  credentials : UserInfo := {}
  mode : OperatingMode := .auto
  rejectNextLoad : Option String := none
  failNextRelease : Bool := false
  loggedOn : Bool := false
  mastership : Bool := false
  mastershipGrants : Nat := 0
  /-- Stored files, by name. -/
  files : List (String × String) := []
  program : Option String := none
  modules : List LoadedModule := []
  pointer : Option ProgramPosition := none
  running : Bool := false
  robtarget : CartesianPose := { position := ⟨600, 0, 800⟩, orientation := ⟨0, 0, 1, 0⟩ }
  jointtarget : JointPose := { joints := ⟨0, 0, 0, 0, 30, 0⟩ }
deriving Inhabited

namespace SimController

/-- A logged-on client is required. -/
def requireLoggedOn (c : SimController) : Except Error Unit :=
  if c.loggedOn then .ok () else .error (.session "not logged on")

/-- A logged-on client holding mastership is required for the named operation. -/
def requireMastership (c : SimController) (operation : String) : Except Error Unit := do
  c.requireLoggedOn
  if c.mastership then pure () else throw (.protocol s!"{operation} requires mastership")

/-- The loaded module of that name. -/
def module? (c : SimController) (name : String) : Option LoadedModule :=
  c.modules.find? (·.name == name)

/-- The stored file of that name. -/
def storedFile (c : SimController) (name : String) : Option String :=
  (c.files.find? (·.1 == name)).map (·.2)

/-- The value of a data item of a loaded module. -/
def dataValue (c : SimController) (module name : String) : Option String := do
  let m ← c.module? module
  let d ← m.data.find? (·.name == name)
  pure d.value

/-- Logs a user on: the controller must be reachable and the credentials must match. -/
def logon (c : SimController) (handle : ControllerHandle) (user : UserInfo) :
    Except Error SimController :=
  if !c.reachable then .error (.session s!"controller {handle.text} is unreachable")
  else if user != c.credentials then
    .error (.session s!"credentials rejected for user '{user.name}'")
  else .ok { c with loggedOn := true }

/-- Logs off, dropping mastership. -/
def logoff (c : SimController) : SimController :=
  { c with loggedOn := false, mastership := false }

/-- Takes mastership, counting the grant. -/
def requestMastership (c : SimController) : Except Error SimController := do
  c.requireLoggedOn
  if c.mastership then throw (.protocol "mastership already held")
  pure { c with mastership := true, mastershipGrants := c.mastershipGrants + 1 }

/-- Gives mastership back. It is dropped in any case; a pending release failure is used up
and reported. -/
def releaseMastership (c : SimController) : SimController × Except Error Unit :=
  let c' := { c with mastership := false, failNextRelease := false }
  if c.failNextRelease then (c', .error (.protocol "mastership release timed out"))
  else (c', .ok ())

/-- The operating mode, to a logged-on client. -/
def operatingMode (c : SimController) : Except Error OperatingMode := do
  c.requireLoggedOn
  pure c.mode

/-- Stores a file under a name; `localText` is the text read from the local file. -/
def putFile (c : SimController) (localText : Except Error String) (remote : String)
    (overwrite : Bool) : Except Error SimController := do
  let text ← localText
  c.requireLoggedOn
  if !overwrite && (c.storedFile remote).isSome then throw (.protocol s!"'{remote}' already exists")
  pure { c with files := (c.files.filter (·.1 != remote)) ++ [(remote, text)] }

/-- Loads a program from a stored file. Replacing unloads all modules and clears the
pointer. -/
def loadProgram (c : SimController) (remote : String) (mode : LoadMode) :
    SimController × Except Error Unit :=
  match c.requireMastership "load program" with
  | .error e => (c, .error e)
  | .ok () =>
    match c.rejectNextLoad with
    | some reason => ({ c with rejectNextLoad := none }, .error (.loadRejected remote reason))
    | none =>
      if (c.storedFile remote).isNone then
        (c, .error (.protocol s!"no file '{remote}' in storage"))
      else
        let c' := if mode = .replace then { c with modules := [], pointer := none } else c
        ({ c' with program := some remote }, .ok ())

/-- Loads a module from a stored file: the text must scan, and a module of the same name is
refused when adding and replaced otherwise. -/
def loadModule (c : SimController) (remote : String) (mode : LoadMode) :
    SimController × Except Error Unit :=
  match c.requireMastership "load module" with
  | .error e => (c, .error e)
  | .ok () =>
    match c.rejectNextLoad with
    | some reason => ({ c with rejectNextLoad := none }, .error (.loadRejected remote reason))
    | none =>
      match c.storedFile remote with
      | none => (c, .error (.protocol s!"no file '{remote}' in storage"))
      | some text =>
        match scanModule text with
        | .error reason => (c, .error (.loadRejected remote reason))
        | .ok m =>
          if (c.module? m.name).isSome then
            match mode with
            | .add => (c, .error (.loadRejected remote s!"module '{m.name}' already loaded"))
            | .replace =>
              ({ c with modules := c.modules.map fun x => if x.name == m.name then m else x },
                .ok ())
          else ({ c with modules := c.modules ++ [m] }, .ok ())

/-- A data item of a loaded module, to a logged-on client. -/
def getData (c : SimController) (module name : String) : Except Error (Option DataItem) := do
  c.requireLoggedOn
  pure ((c.module? module).bind fun m => m.data.find? (·.name == name))

/-- Replaces the first element that satisfies `p`. -/
def replaceFirst {α : Type} (p : α → Bool) (f : α → α) : List α → List α
  | [] => []
  | x :: xs => if p x then f x :: xs else x :: replaceFirst p f xs

/-- Writes the value text of a data item: the first item of that name in the first module of
that name, as lookups find it. -/
def setData (c : SimController) (module name value : String) : Except Error SimController := do
  c.requireMastership "write data"
  match (c.module? module).bind (fun m => m.data.find? (·.name == name)) with
  | none => throw (.symbolNotFound module name)
  | some _ =>
    let write (d : DataItem) : DataItem := { d with value := value }
    let change (m : LoadedModule) : LoadedModule :=
      { m with data := replaceFirst (·.name == name) write m.data }
    pure { c with modules := replaceFirst (·.name == module) change c.modules }

/-- The data items of a loaded module, in declaration order; none for an unknown module. -/
def searchData (c : SimController) (module : String) : Except Error (List DataItem) := do
  c.requireLoggedOn
  pure ((c.module? module).map (·.data) |>.getD [])

/-- The program pointer, to a logged-on client. -/
def programPointer (c : SimController) : Except Error (Option ProgramPosition) := do
  c.requireLoggedOn
  pure c.pointer

/-- Moves the program pointer to a row of routine `rStart` of a loaded module. -/
def setProgramPointer (c : SimController) (module : String) (row : Nat) :
    Except Error SimController := do
  c.requireMastership "set program pointer"
  if (c.module? module).isNone then throw (.protocol s!"module '{module}' is not loaded")
  pure { c with pointer := some ⟨module, "rStart", row⟩ }

/-- Moves the program pointer to the start of `main` in the first loaded module. -/
def resetProgramPointer (c : SimController) : Except Error SimController := do
  c.requireMastership "reset program pointer"
  match c.modules.head? with
  | none => throw (.protocol "no module loaded")
  | some m => pure { c with pointer := some ⟨m.name, "main", 0⟩ }

/-- Starts execution, in automatic mode only. -/
def start (c : SimController) : Except Error SimController := do
  c.requireMastership "start"
  if c.mode != .auto then throw (.modeError c.mode)
  pure { c with running := true }

/-- The current Cartesian position, to a logged-on client. -/
def currentRobtarget (c : SimController) : Except Error CartesianPose := do
  c.requireLoggedOn
  pure c.robtarget

/-- The current joint position, to a logged-on client. -/
def currentJointtarget (c : SimController) : Except Error JointPose := do
  c.requireLoggedOn
  pure c.jointtarget

/-- Notes a pointer event: a program pointer event moves the pointer to that row of
`rStart`. -/
def notePointer (c : SimController) (e : PointerEvent) : SimController :=
  match e.kind with
  | .program => { c with pointer := some ⟨e.module, "rStart", e.row⟩ }
  | .motion => c

end SimController

end RobotProgram
