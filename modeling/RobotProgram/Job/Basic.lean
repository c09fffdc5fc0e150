import RobotProgram.Program.Compile
import RobotProgram.Program.Broadcast
import RobotProgram.Program.Module
import RobotProgram.Program.Data
/-!
# RobotProgram.Job.Basic

A job: what to compile into one program module. It declares tools and work objects, lists
blocks of moves or free statements, and inserts statements into the compiled routine at given
indices.

Compiling a job adds the tool and work-object data to a new module, compiles each block in
turn and appends its set to the module, then applies each insertion to the module's
instructions. The first block that fails stops the job with its index; so does the first
insertion that fails.
-/

namespace RobotProgram

/-- A tool or work object to declare. -/
structure FrameDeclaration where
  name : String
  frame : CartesianPose
  mass : Float := 1.0
deriving Repr

/-- The settings of a block of moves: its set name, speeds, zones, and frames. -/
structure MoveSettings where
  setName : String
  speeds : List MotionParameter
  zones : List MotionParameter
  tool : Option String := none
  wobj : Option String := none
deriving Repr

/-- The frames of a block: the given tool and work object, or the defaults. -/
def MoveSettings.frames (m : MoveSettings) : Frames :=
  { tool := m.tool.getD ({} : Frames).tool, wobj := m.wobj.getD ({} : Frames).wobj }

/-- A block of a job. -/
inductive Block where
  | moveL (settings : MoveSettings) (targets : List CartesianPose)
  | moveJ (settings : MoveSettings) (targets : List CartesianPose)
  | moveAbsJ (settings : MoveSettings) (targets : List JointPose)
  | moveC (settings : MoveSettings) (via targets : List CartesianPose)
  | custom (statements : List String)
deriving Repr

/-- Statements to insert into the routine, at the given indices. -/
structure Insertion where
  indices : List Nat
  statements : List String
deriving Repr

/-- A job. -/
structure Job where
  tools : List FrameDeclaration := []
  wobjs : List FrameDeclaration := []
  blocks : List Block := []
  insertions : List Insertion := []
deriving Repr

/-- Why a job failed to compile: the step that failed and the error. -/
structure JobFailure where
  step : String
  error : Error

namespace Block

/-- Compiles a block. -/
def compile (c : TargetCompiler) : Block → Except Error CompiledSet
  | .moveL m targets => c.moveL targets m.speeds m.zones m.setName m.frames
  | .moveJ m targets => c.moveJ targets m.speeds m.zones m.setName m.frames
  | .moveAbsJ m targets => c.moveAbsJ targets m.speeds m.zones m.setName m.frames
  | .moveC m via targets => c.moveC via targets m.speeds m.zones m.setName m.frames
  | .custom statements => .ok (TargetCompiler.custom statements)

end Block

namespace Job

/-- Compiles a job into a module and the compiled set of each block. -/
def compile (job : Job) (c : TargetCompiler) :
    Except JobFailure (ProgramModule × List CompiledSet) := do
  let m := job.tools.foldl (fun m t => m.addTool (Data.tool t.name t.frame t.mass)) {}
  let m := job.wobjs.foldl (fun m w => m.addWobj (Data.wobj w.name w.frame)) m
  let (m, sets) ← job.blocks.zipIdx.foldlM (fun (m, sets) (b, n) =>
    match b.compile c with
    | .ok s => .ok (m.pushSet s, sets ++ [s])
    | .error e => .error ⟨"block " ++ toString n ++ " failed to compile", e⟩) (m, [])
  let m ← job.insertions.foldlM (fun (m : ProgramModule) ins =>
    match insertInstructions m.instructions ins.statements ins.indices with
    | .ok is => .ok (m.setInstructions is)
    | .error e => .error ⟨"insert failed", e⟩) m
  pure (m, sets)

end Job

end RobotProgram
