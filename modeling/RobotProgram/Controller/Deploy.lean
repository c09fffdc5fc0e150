import RobotProgram.Controller.Session
import RobotProgram.Program.Module
/-!
# RobotProgram.Controller.Deploy

Complete controller workflows. Each opens its own logon scope and, when it changes the
controller, a mastership scope inside it; both are closed on every exit before the answer is
given. Whatever can be checked locally (that the files exist, that a target text reads) is
checked first, before the controller is contacted.
-/

namespace RobotProgram

/-- A program descriptor and the module file it names, uploaded together. -/
structure ProgramFiles where
  /-- The program descriptor (`.pgf`). -/
  program : String
  /-- The module source (`.mod`). -/
  module : String
deriving Repr, DecidableEq

/-- `dir/programFile` and `dir/module.mod`. -/
def ProgramFiles.inDir (dir programFile module : String) : ProgramFiles :=
  ⟨joinPath dir programFile, joinPath dir (module ++ ".mod")⟩

/-- The targets declared in a module, by kind, in declaration order. -/
structure TargetData where
  robtargets : List (String × CartesianPose) := []
  jointtargets : List (String × JointPose) := []

/-- Adds a data item to the targets if it is one; a target whose value does not read fails. -/
def TargetData.add (t : TargetData) (d : DataItem) : Except Error TargetData :=
  if d.dataType == "robtarget" then do
    let pose ← CartesianPose.parse d.value
    pure { t with robtargets := t.robtargets ++ [(d.name, pose)] }
  else if d.dataType == "jointtarget" then do
    let joints ← JointPose.parse d.value
    pure { t with jointtargets := t.jointtargets ++ [(d.name, joints)] }
  else pure t

/-- A tool or work object read from the controller. -/
structure ProgramDataEntry where
  dataType : String
  name : String
  value : DataValue

/-- The tools and work objects among the data items, read as values of their types. -/
def programDataEntries (items : List DataItem) : Except Error (List ProgramDataEntry) :=
  (items.filter fun d => d.dataType == "tooldata" || d.dataType == "wobjdata").mapM fun d => do
    let value ← DataValue.parseAs d.dataType d.value
    pure ⟨d.dataType, d.name, value⟩

namespace Station

open RobotProgram.Action

/-- Writes a local text file, with faults as I/O errors. -/
def writeLocal (path text : String) : Action Unit := fun s =>
  match s.files.writeText path text with
  | .ok fs => ({ s with files := fs }, .ok ())
  | .error f => (s, .error (.io f.text))

/-- Reads a module file: a missing one is reported as such, other faults as I/O errors. -/
def readModule (path : String) : Action String := fun s =>
  match s.files.readText path with
  | .ok text => (s, .ok text)
  | .error .notFound => (s, .error (.fileNotFound path))
  | .error f => (s, .error (.io f.text))

/-- Writes the module text and a descriptor naming the module file. -/
def writeProgramFiles (files : ProgramFiles) (moduleText : String) : Action Unit := do
  let some moduleFile := fileName? files.module | throw (.fileNotFound files.module)
  writeLocal files.module moduleText
  writeLocal files.program (programDescriptor [moduleFile])

/-- The controller must be in automatic mode. -/
def requireAuto : Action Unit := do
  let mode ← operatingMode
  if mode != .auto then throw (.modeError mode)

/-- Uploads a program and its module and starts execution from the entry routine. The local
files are checked before logging on, the operating mode before anything is transferred. -/
def sendProgram (handle : ControllerHandle) (files : ProgramFiles) : Action Unit := do
  requireLocalFile files.program
  requireLocalFile files.module
  withLogon handle <| withMastership do
    requireAuto
    uploadProgram files.program
    uploadModule files.module .add
    startExecution

/-- Overwrites a named robtarget with the target the text reads as, and restarts execution. -/
def sendTarget (handle : ControllerHandle) (module name text : String) : Action Unit := do
  let pose ← result (CartesianPose.parse text)
  withLogon handle <| withMastership do
    requireAuto
    writeNamedValue module name (.robtarget pose)
    startExecution

/-- Moves the program pointer to a row of a module. -/
def setPointer (handle : ControllerHandle) (module : String) (row : Nat) : Action Unit :=
  withLogon handle <| withMastership <| setProgramPointer module row

/-- Reads every robtarget and jointtarget declared in a module. -/
def readTargetData (handle : ControllerHandle) (module : String) : Action TargetData :=
  withLogon handle do
    let items ← searchData module
    result (items.foldlM TargetData.add {})

/-- Reads every tool and work object declared in a module. -/
def readProgramData (handle : ControllerHandle) (module : String) :
    Action (List ProgramDataEntry) :=
  withLogon handle do
    let items ← searchData module
    result (programDataEntries items)

/-- Reads the current position. -/
def currentPositionOn (handle : ControllerHandle) : Action (CartesianPose × JointPose) :=
  withLogon handle currentPosition

end Station

end RobotProgram
