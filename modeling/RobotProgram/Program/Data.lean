import RobotProgram.Motion.Pose
/-!
# RobotProgram.Program.Data

Declarations of the controller's predefined record types: speed, zone, load, configuration,
tool, work object, motion settings and stop point data. Each builder gives the text of one
declaration, starting on a new line with one tab; numbers are written by `numberText` and
truth values as `TRUE` and `FALSE`.
-/

namespace RobotProgram

namespace Data

/-- `VAR speeddata`: TCP, orientation, linear and rotating external axis speeds. -/
def speed (name : String) (vTcp vOri vLeax vReax : Float) : String :=
  "\n\tVAR speeddata " ++ name ++ ":=" ++ numberListText [vTcp, vOri, vLeax, vReax] ++ ";"

/-- The zone of a move: a stop point, or the path and orientation zone sizes. -/
structure ZoneData where
  finep : Bool := false
  pzoneTcp : Float := 0
  pzoneOri : Float := 0
  pzoneEax : Float := 0
  zoneOri : Float := 0
  zoneLeax : Float := 0
  zoneReax : Float := 0
deriving Repr, Inhabited

/-- `VAR zonedata`. -/
def zone (name : String) (z : ZoneData) : String :=
  "\n\tVAR zonedata " ++ name ++ ":=[" ++ ",".intercalate
    (boolText z.finep :: [z.pzoneTcp, z.pzoneOri, z.pzoneEax, z.zoneOri, z.zoneLeax, z.zoneReax].map
      numberText) ++ "];"

/-- `PERS loaddata`: mass, centre of gravity, axes of moment and the three inertias. -/
def load (name : String) (mass : Float) (cog : Position) (aom : Quaternion) (ix iy iz : Float) :
    String :=
  "\n\tPERS loaddata " ++ name ++ ":=[" ++ numberText mass ++ "," ++ numberListText cog.toList ++
    "," ++ numberListText aom.toList ++ "," ++ numberText ix ++ "," ++ numberText iy ++ "," ++
    numberText iz ++ "];"

/-- `PERS confdata`. -/
def conf (name : String) (c : ArmConfiguration) : String :=
  "\n\tPERS confdata " ++ name ++ ":=" ++ c.text ++ ";"

/-- `PERS tooldata`: a held tool with the frame of the pose and a load of the given mass. -/
def tool (name : String) (frame : CartesianPose) (mass : Float) : String :=
  "\n\tPERS tooldata " ++ name ++ ":=[TRUE," ++ frame.frameText ++ ",[" ++ numberText mass ++
    ",[0,0,0.001],[1,0,0,0],0,0,0]];"

/-- `TASK PERS wobjdata`: a fixed work object whose user frame is the frame of the pose. -/
def wobj (name : String) (frame : CartesianPose) : String :=
  "\n\tTASK PERS wobjdata " ++ name ++ ":=[FALSE,TRUE,\"\"," ++ frame.frameText ++
    ",[[0,0,0],[1,0,0,0]]];"

/-- The motion settings of a task. A limit that is `none` is disabled. -/
structure MotionSettings where
  velOride : Float := 100
  velMax : Float := 5000
  accAcc : Float := 100
  accRamp : Float := 100
  singWrist : Bool := false
  singArm : Bool := false
  singBase : Bool := false
  confJsup : Bool := true
  confLsup : Bool := true
  confAx1 : Float := 30
  confAx4 : Float := 45
  confAx6 : Float := 90
  pathresol : Float := 100
  motionsup : Bool := true
  tunevalue : Float := 100
  accmax : Option Float := none
  decelmax : Option Float := none
  cirpathreori : UInt8 := 0
  worldaccmax : Option Float := none
  evtbufferact : Bool := true
deriving Repr, Inhabited

/-- A limit: `TRUE,<value>` when set, `FALSE,-1` when disabled. -/
def limit : Option Float → String
  | some v => "TRUE," ++ numberText v
  | none => "FALSE,-1"

/-- `VAR motsetdata`. -/
def motionSettings (name : String) (m : MotionSettings) : String :=
  "\n\tVAR motsetdata " ++ name ++ ":=[" ++ ",".intercalate
    [numberListText [m.velOride, m.velMax], numberListText [m.accAcc, m.accRamp],
      "[" ++ ",".intercalate [boolText m.singWrist, boolText m.singArm, boolText m.singBase] ++ "]",
      "[" ++ ",".intercalate [boolText m.confJsup, boolText m.confLsup, numberText m.confAx1,
        numberText m.confAx4, numberText m.confAx6] ++ "]",
      numberText m.pathresol, boolText m.motionsup, numberText m.tunevalue, limit m.accmax,
      limit m.decelmax, toString m.cirpathreori.toNat, limit m.worldaccmax,
      boolText m.evtbufferact] ++ "];"

/-- How a stop point ends a move. -/
inductive StopPointKind where
  | inPosition
  | stopTime
  | followTime
deriving Repr, DecidableEq, Inhabited

/-- The keyword of a stop point kind. -/
def StopPointKind.keyword : StopPointKind → String
  | .inPosition => "inpos"
  | .stopTime => "stoptime"
  | .followTime => "fllwtime"

/-- A stop point: its kind, program synchronisation, the in-position conditions and the
times. -/
structure StopPoint where
  kind : StopPointKind := .inPosition
  progsynch : Bool := false
  inposPosition : Float := 0
  inposSpeed : Float := 0
  inposMintime : Float := 0
  inposMaxtime : Float := 0
  stoptime : Float := 0
  followtime : Float := 0
deriving Repr, Inhabited

/-- `VAR stoppointdata`, with an empty signal. -/
def stopPoint (name : String) (s : StopPoint) : String :=
  "\n\tVAR stoppointdata " ++ name ++ ":=[" ++ s.kind.keyword ++ "," ++ boolText s.progsynch ++ "," ++
    numberListText [s.inposPosition, s.inposSpeed, s.inposMintime, s.inposMaxtime] ++ "," ++
    numberText s.stoptime ++ "," ++ numberText s.followtime ++ ",\"\",0,0];"

/-- The number text padded on the left with zeros to `width` characters. -/
def zeroPadLeft (value : Float) (width : Nat) : String :=
  let text := numberText value
  String.ofList (List.replicate (width - text.length) '0') ++ text

/-- The number text padded on the right with zeros to `width` characters. -/
def zeroPadRight (value : Float) (width : Nat) : String :=
  let text := numberText value
  text ++ String.ofList (List.replicate (width - text.length) '0')

end Data

end RobotProgram
