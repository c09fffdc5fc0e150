import RobotProgram.Motion.Pose
import RobotProgram.Literal.Reader
/-!
# RobotProgram.Motion.Pose.Reading

Reading poses from their text. The text is read as a bracket literal and then taken apart by
shape; each fault names the whole text:

* a robtarget needs four groups: three numbers, four numbers, four configuration quadrants
  and six external axes;
* a jointtarget needs two groups: six numbers and six external axes.

A quadrant must be an integral number within the 32-bit signed range. An external axis at or
above `9e9` (infinity too) reads as unused. Reading checks no finiteness: that is validation.
-/

-- Powers are `Nat.pow` and `Int.pow` themselves, whatever algebraic instances are in scope.
attribute [local instance (high)] instPowNat

namespace RobotProgram

/-- The integer a float is exactly, read off its sign, mantissa and exponent: `none` for a NaN,
an infinity or a value with a fraction, and `0` for both zeros. -/
def integerValue? (x : Float) : Option Int :=
  match x.toModel.unpack with
  | .zero _ => some 0
  | .finite sign m e _ =>
    let magnitude? : Option Nat :=
      if 0 ≤ e then some (m * 2 ^ e.toNat)
      else if m % 2 ^ (-e).toNat = 0 then some (m / 2 ^ (-e).toNat)
      else none
    magnitude?.map fun n => sign.apply n
  | _ => none

namespace ArmConfiguration

/-- A quadrant: an integral number within the 32-bit signed range. -/
def quadrant? (x : Float) : Option Int32 :=
  match integerValue? x with
  | some n => if -2147483648 ≤ n ∧ n ≤ 2147483647 then some (Int32.ofInt n) else none
  | none => none

/-- The configuration in a literal of four quadrants. -/
def ofLiteral? (lit : Literal) : Option ArmConfiguration := do
  let xs ← lit.numbers? 4
  ofList? (← xs.mapM quadrant?)

end ArmConfiguration

namespace ExternalAxes

/-- The axes in a literal of six numbers; a value at or above `9e9` is an unused axis. -/
def ofLiteral? (lit : Literal) : Option ExternalAxes := do
  let xs ← lit.numbers? 6
  ofList? (xs.map fun v => if v ≥ externalAxisUnset then none else some v)

end ExternalAxes

namespace CartesianPose

/-- Reads a robtarget text. -/
def parse (text : String) : Except Error CartesianPose := do
  let lit ← Literal.parse text
  let fault := fun reason => Error.invalidLiteral text reason
  match lit.items? with
  | some [pos, ori, conf, ext] =>
    let position ← (pos.numbers? 3 >>= Position.ofList?).elim
      (throw (fault "position needs 3 numbers")) pure
    let orientation ← (ori.numbers? 4 >>= Quaternion.ofList?).elim
      (throw (fault "orientation needs 4 numbers")) pure
    let config ← (ArmConfiguration.ofLiteral? conf).elim
      (throw (fault "configuration needs 4 numbers")) pure
    let external ← (ExternalAxes.ofLiteral? ext).elim
      (throw (fault "external axes need 6 numbers")) pure
    pure { position, orientation, config, external }
  | _ => throw (fault "robtarget needs 4 groups")

end CartesianPose

namespace JointPose

/-- Reads a jointtarget text. -/
def parse (text : String) : Except Error JointPose := do
  let lit ← Literal.parse text
  let fault := fun reason => Error.invalidLiteral text reason
  match lit.items? with
  | some [js, ext] =>
    let joints ← (js.numbers? 6 >>= Joints.ofList?).elim
      (throw (fault "joint group needs 6 numbers")) pure
    let external ← (ExternalAxes.ofLiteral? ext).elim
      (throw (fault "external axes need 6 numbers")) pure
    pure { joints, external }
  | _ => throw (fault "jointtarget needs 2 groups")

end JointPose

end RobotProgram
