import RobotProgram.Program.Instruction
import RobotProgram.Program.Broadcast
import RobotProgram.Motion.Pose
import RobotProgram.Motion.Catalog
/-!
# RobotProgram.Program.Compile

Compiling lists of targets into declarations and move instructions. Target `i` of a set named
`p` is declared as `p<i>` and moved to by instruction `i`, with speed `i` and zone `i` of the
parameter lists, stretched by `broadcast` to the number of targets and resolved in the
compiler's catalogs.

The checks come in a fixed order, and the first that fails is the answer:

1. the target list is empty (for circular moves: the destinations);
2. for circular moves, the through-points and destinations differ in number;
3. a target is invalid (circular moves: all through-points first, then all destinations);
4. the speed list, then the zone list, is empty;
5. at the lowest index, the speed and then the zone does not resolve.
-/

namespace RobotProgram

/-- The catalogs levels are quantized in. -/
structure TargetCompiler where
  speeds : MotionCatalog := MotionCatalog.standardSpeeds
  zones : MotionCatalog := MotionCatalog.standardZones

namespace TargetCompiler

/-- Resolves parameter `i` of each list and builds the declaration and instruction of
target `i`. -/
def moveEntry (c : TargetCompiler) (opcode : Opcode) (setName : String) (frames : Frames)
    (entry : (Target × MotionParameter × MotionParameter) × Nat) :
    Except Error (Declaration × Instruction) := do
  let ((target, speedParam, zoneParam), i) := entry
  let speed ← speedParam.resolve c.speeds
  let zone ← zoneParam.resolve c.zones
  let name := setName ++ toString i
  let decl : Declaration :=
    { index := i, names := [name],
      text := "\n\tCONST " ++ target.dataType ++ " " ++ name ++ ":=" ++ target.text ++ ";" }
  let inst : Instruction :=
    { index := i, opcode, speed := some speed, zone := some zone,
      text := "\n\t\t" ++ opcode.name ++ " " ++ name ++ "," ++ speed ++ "," ++ zone ++ "," ++
        frames.tool ++ "\\WObj:=" ++ frames.wobj ++ ";" }
  pure (decl, inst)

/-- A compiled set from its entries, in order. -/
def ofEntries (entries : List (Declaration × Instruction)) : CompiledSet :=
  { declarations := entries.map Prod.fst, instructions := entries.map Prod.snd }

/-- Compiles linear, joint or absolute joint moves to each target. -/
def compileMoves (c : TargetCompiler) (opcode : Opcode) (targets : List Target)
    (speeds zones : List MotionParameter) (setName : String) (frames : Frames) :
    Except Error CompiledSet := do
  if targets.isEmpty then throw .emptyTargetList
  targets.forM Target.validate
  let speeds ← broadcast speeds targets.length "speed"
  let zones ← broadcast zones targets.length "zone"
  let entries ← (targets.zip (speeds.zip zones)).zipIdx.mapM (c.moveEntry opcode setName frames)
  pure (ofEntries entries)

/-- Linear moves to Cartesian targets. -/
def moveL (c : TargetCompiler) (targets : List CartesianPose) (speeds zones : List MotionParameter)
    (setName : String) (frames : Frames) : Except Error CompiledSet :=
  c.compileMoves .moveL (targets.map .cartesian) speeds zones setName frames

/-- Joint moves to Cartesian targets. -/
def moveJ (c : TargetCompiler) (targets : List CartesianPose) (speeds zones : List MotionParameter)
    (setName : String) (frames : Frames) : Except Error CompiledSet :=
  c.compileMoves .moveJ (targets.map .cartesian) speeds zones setName frames

/-- Absolute joint moves to joint targets. -/
def moveAbsJ (c : TargetCompiler) (targets : List JointPose)
    (speeds zones : List MotionParameter) (setName : String) (frames : Frames) :
    Except Error CompiledSet :=
  c.compileMoves .moveAbsJ (targets.map .joint) speeds zones setName frames

/-- Resolves parameter `i` of each list and builds the declarations of through-point and
destination `i` (`cir<set><i>`, `to<set><i>`) and the circular move through them. -/
def circleEntry (c : TargetCompiler) (setName : String) (frames : Frames)
    (entry : ((CartesianPose × CartesianPose) × MotionParameter × MotionParameter) × Nat) :
    Except Error (Declaration × Instruction) := do
  let (((via, dest), speedParam, zoneParam), i) := entry
  let speed ← speedParam.resolve c.speeds
  let zone ← zoneParam.resolve c.zones
  let cir := "cir" ++ setName ++ toString i
  let toName := "to" ++ setName ++ toString i
  let decl : Declaration :=
    { index := i, names := [cir, toName],
      text := "\n\tCONST robtarget " ++ cir ++ ":=" ++ via.text ++ ";\n\tCONST robtarget " ++
        toName ++ ":=" ++ dest.text ++ ";" }
  let inst : Instruction :=
    { index := i, opcode := .moveC, speed := some speed, zone := some zone,
      text := "\n\t\tMoveC " ++ cir ++ "," ++ toName ++ "," ++ speed ++ "," ++ zone ++ "," ++
        frames.tool ++ "\\WObj:=" ++ frames.wobj ++ ";" }
  pure (decl, inst)

/-- Circular moves through each through-point to the destination of the same index. -/
def moveC (c : TargetCompiler) (via dests : List CartesianPose)
    (speeds zones : List MotionParameter) (setName : String) (frames : Frames) :
    Except Error CompiledSet := do
  if dests.isEmpty then throw .emptyTargetList
  if via.length ≠ dests.length then throw (.mismatchedTargets via.length dests.length)
  (via ++ dests).forM CartesianPose.validate
  let speeds ← broadcast speeds dests.length "speed"
  let zones ← broadcast zones dests.length "zone"
  let entries ← ((via.zip dests).zip (speeds.zip zones)).zipIdx.mapM (c.circleEntry setName frames)
  pure (ofEntries entries)

/-- Independent moves of the axes of a mechanical unit to absolute positions: each position is
declared as a number `<set><i>` and used by move `i`. Positions are not checked. -/
def indAMove (c : TargetCompiler) (mecUnit : String) (axes : List UInt8) (positions : List Float)
    (speeds : List MotionParameter) (setName : String) : Except Error CompiledSet := do
  if positions.isEmpty then throw .emptyTargetList
  let axes ← broadcast axes positions.length "axis"
  let speeds ← broadcast speeds positions.length "speed"
  let entries ← (positions.zip (axes.zip speeds)).zipIdx.mapM fun ((position, axis, speedParam), i) => do
    let speed ← speedParam.resolve c.speeds
    let name := setName ++ toString i
    let decl : Declaration :=
      { index := i, names := [name], text := "\n\tVAR num " ++ name ++ ":=" ++ numberText position ++ ";" }
    let inst : Instruction :=
      { index := i, opcode := .indAMove, speed := some speed, zone := none,
        text := "\n\t\tIndAMove " ++ mecUnit ++ "," ++ toString axis.toNat ++ "\\ToAbsNum:=" ++ name ++
          "," ++ speed ++ ";" }
    pure (decl, inst)
  pure (ofEntries entries)

/-- Resets of independent axes to reference angles; no declarations. -/
def indReset (mecUnit : String) (axes : List UInt8) (references : List Float) :
    Except Error CompiledSet := do
  if axes.isEmpty then throw .emptyTargetList
  let references ← broadcast references axes.length "reference"
  let instructions := (axes.zip references).zipIdx.map fun ((axis, reference), i) =>
    { index := i, opcode := .indReset, speed := none, zone := none,
      text := "\n\t\tIndReset " ++ mecUnit ++ "," ++ toString axis.toNat ++ "\\RefNum:=" ++
        numberText reference ++ "\\Old;" : Instruction }
  pure { instructions }

/-- Free statements, one instruction each. -/
def custom (bodies : List String) : CompiledSet :=
  { instructions := bodies.zipIdx.map fun (body, i) =>
      { index := i, opcode := .custom, speed := none, zone := none, text := statement body } }

end TargetCompiler

end RobotProgram
