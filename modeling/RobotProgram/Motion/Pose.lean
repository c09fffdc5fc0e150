import RobotProgram.Literal.Basic
import RobotProgram.Error
/-!
# RobotProgram.Motion.Pose

Poses a robot moves to. A Cartesian pose (a robtarget) is a position in millimetres, an
orientation quaternion, the arm configuration quadrants and six external axes; a joint pose
(a jointtarget) is six joint angles and six external axes. An external axis that is not used
is written `9E+09`.

The text of a pose is a bracket literal whose numbers are written by `numberText`:

    [[x,y,z],[q1,q2,q3,q4],[cf1,cf4,cf6,cfx],[ea,eb,ec,ed,ee,ef]]
    [[j1,j2,j3,j4,j5,j6],[ea,eb,ec,ed,ee,ef]]

A pose is valid when all its numbers are finite and, for a Cartesian pose, the orientation is a
unit quaternion to within `1e-6`. Validation reports the first fault in this order: a
non-finite position or orientation component, the norm, a non-finite external axis.
-/

namespace RobotProgram

/-- A point in space. -/
structure Position where
  x : Float
  y : Float
  z : Float
deriving Repr, Inhabited

/-- An orientation as the quaternion `q1 + q2·i + q3·j + q4·k`. -/
structure Quaternion where
  q1 : Float
  q2 : Float
  q3 : Float
  q4 : Float
deriving Repr, Inhabited

/-- The arm configuration: the quadrants of axes 1, 4 and 6, and the configuration number. -/
structure ArmConfiguration where
  cf1 : Int32 := 0
  cf4 : Int32 := 0
  cf6 : Int32 := 0
  cfx : Int32 := 0
deriving Repr, Inhabited, DecidableEq

/-- Six external axes; `none` is an axis that is not used. -/
structure ExternalAxes where
  eaxA : Option Float := none
  eaxB : Option Float := none
  eaxC : Option Float := none
  eaxD : Option Float := none
  eaxE : Option Float := none
  eaxF : Option Float := none
deriving Repr, Inhabited

/-- A Cartesian pose. -/
structure CartesianPose where
  position : Position
  orientation : Quaternion
  config : ArmConfiguration := {}
  external : ExternalAxes := {}
deriving Repr, Inhabited

/-- Six joint angles, in degrees. -/
structure Joints where
  j1 : Float
  j2 : Float
  j3 : Float
  j4 : Float
  j5 : Float
  j6 : Float
deriving Repr, Inhabited

/-- A joint pose. -/
structure JointPose where
  joints : Joints
  external : ExternalAxes := {}
deriving Repr, Inhabited

/-- The text of a list of numbers: `[a,b,c]`. -/
def numberListText (xs : List Float) : String :=
  "[" ++ ",".intercalate (xs.map numberText) ++ "]"

/-- The tolerance on the norm of an orientation quaternion. -/
def quaternionTolerance : Float := 1e-6

/-- The value at or above which an external axis reads as unused. -/
def externalAxisUnset : Float := 9e9

namespace Position

def toList (p : Position) : List Float := [p.x, p.y, p.z]

def ofList? : List Float → Option Position
  | [x, y, z] => some ⟨x, y, z⟩
  | _ => none

end Position

namespace Quaternion

def toList (q : Quaternion) : List Float := [q.q1, q.q2, q.q3, q.q4]

def ofList? : List Float → Option Quaternion
  | [a, b, c, d] => some ⟨a, b, c, d⟩
  | _ => none

/-- The Euclidean norm, with the squares summed in order. -/
def norm (q : Quaternion) : Float :=
  Float.sqrt (q.q1 * q.q1 + q.q2 * q.q2 + q.q3 * q.q3 + q.q4 * q.q4)

end Quaternion

namespace ArmConfiguration

def toList (c : ArmConfiguration) : List Int32 := [c.cf1, c.cf4, c.cf6, c.cfx]

def ofList? : List Int32 → Option ArmConfiguration
  | [a, b, c, d] => some ⟨a, b, c, d⟩
  | _ => none

/-- `[cf1,cf4,cf6,cfx]` -/
def text (c : ArmConfiguration) : String :=
  "[" ++ ",".intercalate (c.toList.map fun n => toString n.toInt) ++ "]"

end ArmConfiguration

namespace ExternalAxes

def toList (e : ExternalAxes) : List (Option Float) :=
  [e.eaxA, e.eaxB, e.eaxC, e.eaxD, e.eaxE, e.eaxF]

def ofList? : List (Option Float) → Option ExternalAxes
  | [a, b, c, d, e, f] => some ⟨a, b, c, d, e, f⟩
  | _ => none

/-- `[ea,…,ef]`, with `9E+09` for an unused axis. -/
def text (e : ExternalAxes) : String :=
  "[" ++ ",".intercalate (e.toList.map fun
    | some v => numberText v
    | none => "9E+09") ++ "]"

/-- Every used axis holds a finite value. -/
def validate (e : ExternalAxes) : Except Error Unit :=
  match e.toList.filterMap id |>.find? (fun v => !v.isFinite) with
  | some v => .error (.invalidPose s!"external axis value {Layout.plainText v} is not finite")
  | none => .ok ()

end ExternalAxes

namespace Joints

def toList (j : Joints) : List Float := [j.j1, j.j2, j.j3, j.j4, j.j5, j.j6]

def ofList? : List Float → Option Joints
  | [a, b, c, d, e, f] => some ⟨a, b, c, d, e, f⟩
  | _ => none

end Joints

namespace CartesianPose

/-- `[[x,y,z],[q1,q2,q3,q4],[cf1,cf4,cf6,cfx],[ea,…,ef]]` -/
def text (p : CartesianPose) : String :=
  "[" ++ numberListText p.position.toList ++ "," ++ numberListText p.orientation.toList ++ "," ++
    p.config.text ++ "," ++ p.external.text ++ "]"

/-- The frame part alone: `[[x,y,z],[q1,q2,q3,q4]]`. -/
def frameText (p : CartesianPose) : String :=
  "[" ++ numberListText p.position.toList ++ "," ++ numberListText p.orientation.toList ++ "]"

/-- Checks finiteness of the position and orientation, then the norm, then the external
axes. -/
def validate (p : CartesianPose) : Except Error Unit :=
  match (p.position.toList ++ p.orientation.toList).find? (fun v => !v.isFinite) with
  | some v =>
    .error (.invalidPose s!"component {Layout.plainText v} is not finite in {p.text}")
  | none =>
    let norm := p.orientation.norm
    if Float.abs (norm - 1.0) > quaternionTolerance then
      .error (.invalidPose s!"orientation norm {Layout.plainText norm} is not 1 in {p.text}")
    else p.external.validate

/-- A pose with the default configuration and no external axes, if it is valid. -/
def make (position : Position) (orientation : Quaternion) : Except Error CartesianPose :=
  let p : CartesianPose := { position, orientation }
  p.validate.map fun _ => p

end CartesianPose

namespace JointPose

/-- `[[j1,…,j6],[ea,…,ef]]` -/
def text (j : JointPose) : String :=
  "[" ++ numberListText j.joints.toList ++ "," ++ j.external.text ++ "]"

/-- Checks finiteness of the joint angles, then the external axes. -/
def validate (j : JointPose) : Except Error Unit :=
  match j.joints.toList.find? (fun v => !v.isFinite) with
  | some v => .error (.invalidPose s!"joint angle {Layout.plainText v} is not finite in {j.text}")
  | none => j.external.validate

end JointPose

/-- A motion target: a Cartesian or a joint pose. -/
inductive Target where
  | cartesian (pose : CartesianPose)
  | joint (pose : JointPose)
deriving Repr, Inhabited

namespace Target

/-- The controller data type that holds the target. -/
def dataType : Target → String
  | .cartesian _ => "robtarget"
  | .joint _ => "jointtarget"

def text : Target → String
  | .cartesian p => p.text
  | .joint j => j.text

def validate : Target → Except Error Unit
  | .cartesian p => p.validate
  | .joint j => j.validate

end Target

end RobotProgram
