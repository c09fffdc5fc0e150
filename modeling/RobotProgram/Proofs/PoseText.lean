import RobotProgram.Proofs.LiteralText
/-!
# RobotProgram.Proofs.PoseText

Reading back the text of a pose. A pose is written as a bracketed list of number groups:
`[[x,y,z],[q1,q2,q3,q4],[cf1,cf4,cf6,cfx],[a,b,c,d,e,f]]` for a Cartesian pose and
`[[j1,..,j6],[a,..,f]]` for a joint pose, with an unused external axis spelled `9E+09`.

Main statements:
* `CartesianPose.readBack`, `JointPose.readBack`: what a pose reads back as. Each zero loses its
  sign, and an external axis at or above `9e9` (the unused spelling among them) reads as unused.
* `pose_text_reads_back`: parsing the text of a pose gives its read-back pose, whenever the
  layout of each of its numbers reads back as that number (`ReadsBack`). That the layout has no
  comma, bracket or blank in it is not assumed: it is proved in `Proofs.NumberText`.

The proof lays a pose out as a `Written` literal (`CartesianPose.text_eq`), so that the literal
reader's round trip (`parse_list`) applies, and then reads each group back through its
`ofLiteral?`.
-/
namespace RobotProgram

/-! ## What a pose reads back as -/

/-- A zero is below the value from which an external axis reads as unused. -/
theorem not_unset_le_of_beq_zero {v : Float} (h : (v == 0) = true) :
    ¬ externalAxisUnset ≤ v := by
  obtain ⟨m, e, hm, hunset⟩ :
      ∃ m e hm, externalAxisUnset.toModel.unpack = .finite .positive m e hm := ⟨_, _, _, rfl⟩
  have hzero : (0 : Float).toModel.unpack = .zero .positive := rfl
  change (v.toModel.unpack.compare (0 : Float).toModel.unpack == some .eq) = true at h
  change ¬ Float.le externalAxisUnset v = true
  simp only [Float.le, decide_eq_true_eq]
  change ¬ (externalAxisUnset.toModel.unpack.le v.toModel.unpack) = true
  rw [hzero] at h
  rw [hunset]
  -- only a zero compares equal to zero, and every zero is below a positive finite value
  generalize v.toModel.unpack = u at h ⊢
  cases u with
  | notANumber => simp [Float.Model.UnpackedFloat.compare] at h
  | infinity s => cases s <;> simp [Float.Model.UnpackedFloat.compare] at h
  | zero s =>
    cases s <;> simp [Float.Model.UnpackedFloat.le, Float.Model.UnpackedFloat.compare]
  | finite s m' e' hm' => cases s <;> simp [Float.Model.UnpackedFloat.compare] at h

/-- Dropping the sign of a zero does not move a value across the unused-axis bound. -/
theorem unset_le_dropZeroSign (v : Float) :
    (externalAxisUnset ≤ dropZeroSign v) ↔ externalAxisUnset ≤ v := by
  unfold dropZeroSign
  split
  · rename_i hzero
    exact ⟨fun h => absurd h (by decide), fun h => absurd h (not_unset_le_of_beq_zero hzero)⟩
  · rfl

namespace Position
/-- The position a position's text reads back as. -/
def readBack (p : Position) : Position := ⟨dropZeroSign p.x, dropZeroSign p.y, dropZeroSign p.z⟩
end Position

namespace Quaternion
/-- The orientation an orientation's text reads back as. -/
def readBack (q : Quaternion) : Quaternion :=
  ⟨dropZeroSign q.q1, dropZeroSign q.q2, dropZeroSign q.q3, dropZeroSign q.q4⟩
end Quaternion

namespace Joints
/-- The joint angles a joint group's text reads back as. -/
def readBack (j : Joints) : Joints :=
  ⟨dropZeroSign j.j1, dropZeroSign j.j2, dropZeroSign j.j3, dropZeroSign j.j4, dropZeroSign j.j5,
    dropZeroSign j.j6⟩
end Joints

namespace ExternalAxes

/-- An axis as its text reads back: an axis at or above `9e9` reads as unused, and a zero loses
its sign. -/
def readBackAxis : Option Float → Option Float
  | some v => if v ≥ externalAxisUnset then none else some (dropZeroSign v)
  | none => none

/-- The external axes their text reads back as. -/
def readBack (e : ExternalAxes) : ExternalAxes :=
  ⟨readBackAxis e.eaxA, readBackAxis e.eaxB, readBackAxis e.eaxC, readBackAxis e.eaxD,
    readBackAxis e.eaxE, readBackAxis e.eaxF⟩

/-- The values of the used axes. -/
def numbers (e : ExternalAxes) : List Float := e.toList.filterMap id

end ExternalAxes

namespace CartesianPose

/-- The pose a pose's text reads back as. -/
def readBack (p : CartesianPose) : CartesianPose where
  position := p.position.readBack
  orientation := p.orientation.readBack
  config := p.config
  external := p.external.readBack

/-- The numbers a pose's text writes. -/
def numbers (p : CartesianPose) : List Float :=
  p.position.toList ++ p.orientation.toList ++ p.external.numbers

end CartesianPose

namespace JointPose

/-- The joint pose a joint pose's text reads back as. -/
def readBack (j : JointPose) : JointPose where
  joints := j.joints.readBack
  external := j.external.readBack

/-- The numbers a joint pose's text writes. -/
def numbers (j : JointPose) : List Float := j.joints.toList ++ j.external.numbers

end JointPose

/-! ## Poses as written literals -/

open Literal

/-- A list of numbers as written: `[a,b,c]`. -/
def Literal.Written.numbers (xs : List Float) : Written :=
  .list (xs.map fun x => .token (.number x))

/-- The spelling of an unused axis. -/
def unusedAxisToken : Token := ⟨"9E+09", Token.plain_of_all (by decide)⟩

namespace ExternalAxes

/-- The token of one axis: its number, or the unused spelling. -/
def axisToken : Option Float → Token
  | some v => .number v
  | none => unusedAxisToken

/-- The external axes as written. -/
def written (e : ExternalAxes) : Written := .list (e.toList.map fun a => .token (axisToken a))

/-- The text of the external axes is their written literal. -/
theorem text_eq (e : ExternalAxes) : e.text = String.ofList e.written.chars := by
  rw [text, written, Written.text_tokens]
  congr 4
  funext a
  cases a <;> rfl

end ExternalAxes

/-- A number list's text is the written list of its numbers. -/
theorem numberListText_eq (xs : List Float) :
    numberListText xs = String.ofList (Written.numbers xs).chars := by
  rw [Written.numbers, Written.text_tokens]
  rfl

namespace ArmConfiguration

/-- An arm configuration as written: its four quadrants as integers. -/
def written (c : ArmConfiguration) : Written :=
  .list (c.toList.map fun q => .token (.integer q.toInt))

theorem text_eq (c : ArmConfiguration) : c.text = String.ofList c.written.chars := by
  rw [written, Written.text_tokens]
  rfl

end ArmConfiguration

namespace CartesianPose

/-- A pose as written: its position, orientation, configuration and external axes. -/
def written (p : CartesianPose) : Written :=
  .list [.numbers p.position.toList, .numbers p.orientation.toList, p.config.written,
    p.external.written]

theorem text_eq (p : CartesianPose) : p.text = String.ofList p.written.chars := by
  rw [written, Written.text_list, text, numberListText_eq, numberListText_eq,
    ArmConfiguration.text_eq, ExternalAxes.text_eq]
  simp [String.intercalate_cons_cons, String.append_assoc]

end CartesianPose

namespace JointPose

/-- A joint pose as written: its joint angles and external axes. -/
def written (j : JointPose) : Written := .list [.numbers j.joints.toList, j.external.written]

theorem text_eq (j : JointPose) : j.text = String.ofList j.written.chars := by
  rw [written, Written.text_list, text, numberListText_eq, ExternalAxes.text_eq]
  simp [String.intercalate_cons_cons, String.append_assoc]

end JointPose

/-! ## Reading the groups back -/

/-- The float the text of a quadrant reads as. -/
def quadrantFloat (q : Int32) : Float := (readFloat? (toString q.toInt)).getD 0

/-- The text of a quadrant reads as a float that is that quadrant again. -/
theorem readFloat?_quadrantText (q : Int32) :
    readFloat? (toString q.toInt) = some (quadrantFloat q) ∧
      ArmConfiguration.quadrant? (quadrantFloat q) = some q := by
  obtain ⟨x, hread, hq⟩ := quadrant?_readFloat? q
  rw [quadrantFloat, hread]
  exact ⟨rfl, hq⟩

/-- The number an axis's text reads as: `9e9` for an unused axis. -/
def ExternalAxes.axisValue : Option Float → Float
  | some v => dropZeroSign v
  | none => externalAxisUnset

namespace ArmConfiguration

/-- The quadrant tokens of a configuration stand for the floats their texts read as. -/
theorem values?_written (c : ArmConfiguration) :
    Written.values? (c.toList.map fun q => .token (.integer q.toInt)) =
      some ((c.toList.map quadrantFloat).map .num) := by
  rw [List.map_map]
  exact Written.values?_tokens _ _ fun q _ =>
    scalarValue?_of_readFloat? (readFloat?_quadrantText q).1

/-- Reading a configuration back gives the configuration: every quadrant is an integer in
range. -/
theorem ofLiteral?_written (c : ArmConfiguration) :
    ofLiteral? (.list ((c.toList.map quadrantFloat).map .num)) = some c := by
  have hquadrants : ∀ qs : List Int32, (qs.map quadrantFloat).mapM quadrant? = some qs := by
    intro qs
    induction qs with
    | nil => rfl
    | cons q qs ih => simp [(readFloat?_quadrantText q).2, ih]
  have hnums : (Literal.list ((c.toList.map quadrantFloat).map .num)).numbers? 4 =
      some (c.toList.map quadrantFloat) := Literal.numbers?_nums (by simp [toList])
  simp only [ofLiteral?, hnums, Option.bind_eq_bind, Option.bind_some, hquadrants]
  rfl

end ArmConfiguration

namespace ExternalAxes

/-- The axis tokens stand for the axis values: a number that reads back, or `9e9`. -/
theorem values?_written (e : ExternalAxes) (h : ∀ v ∈ e.numbers, ReadsBack v) :
    Written.values? (e.toList.map fun a => .token (axisToken a)) =
      some ((e.toList.map axisValue).map .num) := by
  rw [List.map_map]
  refine Written.values?_tokens _ _ fun a ha => ?_
  cases a with
  | some v => exact scalarValue?_numberText (h v (by simpa [numbers] using ha))
  | none => rfl

/-- Reading the axes back: a value at or above `9e9`, the unused spelling among them, reads as
unused. -/
theorem ofLiteral?_written (e : ExternalAxes) :
    ofLiteral? (.list ((e.toList.map axisValue).map .num)) = some e.readBack := by
  have hnums : (Literal.list ((e.toList.map axisValue).map .num)).numbers? 6 =
      some (e.toList.map axisValue) := Literal.numbers?_nums (by simp [toList])
  have haxis : ∀ a, (if axisValue a ≥ externalAxisUnset then none else some (axisValue a)) =
      readBackAxis a := by
    intro a
    cases a with
    | some v => simp [axisValue, readBackAxis, unset_le_dropZeroSign]
    | none => simp [axisValue, readBackAxis, (by decide : externalAxisUnset ≤ externalAxisUnset)]
  unfold ofLiteral?
  rw [hnums]
  simp only [Option.bind_eq_bind, Option.bind_some, List.map_map, Function.comp_def, haxis]
  rfl

end ExternalAxes

/-- A written list of numbers that read back stands for their values, zeros unsigned. -/
theorem Literal.Written.value?_numbers {xs : List Float} (h : ∀ x ∈ xs, ReadsBack x) :
    (Written.numbers xs).value? = some (.list ((xs.map dropZeroSign).map .num)) := by
  rw [Written.numbers, Written.value?, List.map_map,
    Written.values?_tokens _ _ fun x hx => scalarValue?_numberText (h x hx)]
  rfl

/-! ## Reading a pose back -/

namespace CartesianPose

/-- The text of a pose parses as its read-back pose. -/
theorem parse_text (p : CartesianPose) (h : ∀ x ∈ p.numbers, ReadsBack x) :
    parse p.text = .ok p.readBack := by
  -- first the generic reader: the text is a list of four number lists
  have hlit : Literal.parse p.text = .ok (.list [
      .list ((p.position.toList.map dropZeroSign).map .num),
      .list ((p.orientation.toList.map dropZeroSign).map .num),
      .list ((p.config.toList.map quadrantFloat).map .num),
      .list ((p.external.toList.map ExternalAxes.axisValue).map .num)]) := by
    have hpos : (Written.numbers p.position.toList).value? =
        some (.list ((p.position.toList.map dropZeroSign).map .num)) :=
      Written.value?_numbers fun x hx => h x (by simp [numbers, hx])
    have hori : (Written.numbers p.orientation.toList).value? =
        some (.list ((p.orientation.toList.map dropZeroSign).map .num)) :=
      Written.value?_numbers fun x hx => h x (by simp [numbers, hx])
    have hext := ExternalAxes.values?_written p.external fun x hx => h x (by simp [numbers, hx])
    rw [text_eq]
    apply parse_list
    simp only [Written.values?, Written.value?, hpos, hori, ArmConfiguration.written,
      ArmConfiguration.values?_written, ExternalAxes.written, hext, Option.map_some,
      Option.bind_some]
  -- then each group through its arity check and its record
  have hposition : (Literal.list ((p.position.toList.map dropZeroSign).map .num)).numbers? 3 =
      some (p.position.toList.map dropZeroSign) := Literal.numbers?_nums (by simp [Position.toList])
  have horientation : (Literal.list ((p.orientation.toList.map dropZeroSign).map .num)).numbers? 4 =
      some (p.orientation.toList.map dropZeroSign) :=
    Literal.numbers?_nums (by simp [Quaternion.toList])
  simp only [parse, hlit, bind, Except.bind, Literal.items?, hposition, horientation,
    ArmConfiguration.ofLiteral?_written, ExternalAxes.ofLiteral?_written, Option.elim_some]
  -- what is left builds the position and orientation from their read-back lists
  rfl

end CartesianPose

namespace JointPose

/-- The text of a joint pose parses as its read-back pose. -/
theorem parse_text (j : JointPose) (h : ∀ x ∈ j.numbers, ReadsBack x) :
    parse j.text = .ok j.readBack := by
  have hlit : Literal.parse j.text = .ok (.list [
      .list ((j.joints.toList.map dropZeroSign).map .num),
      .list ((j.external.toList.map ExternalAxes.axisValue).map .num)]) := by
    have hjoints : (Written.numbers j.joints.toList).value? =
        some (.list ((j.joints.toList.map dropZeroSign).map .num)) :=
      Written.value?_numbers fun x hx => h x (by simp [numbers, hx])
    have hext := ExternalAxes.values?_written j.external fun x hx => h x (by simp [numbers, hx])
    rw [text_eq]
    apply parse_list
    simp only [Written.values?, Written.value?, hjoints, ExternalAxes.written, hext,
      Option.map_some, Option.bind_some]
  have hjoints : (Literal.list ((j.joints.toList.map dropZeroSign).map .num)).numbers? 6 =
      some (j.joints.toList.map dropZeroSign) := Literal.numbers?_nums (by simp [Joints.toList])
  simp only [parse, hlit, bind, Except.bind, Literal.items?, hjoints,
    ExternalAxes.ofLiteral?_written, Option.elim_some]
  rfl

end JointPose

/-- Reading a pose's text gives the pose back with each zero unsigned and each external axis at
or above `9e9` unused, whenever the layout of each of its numbers reads back. -/
theorem pose_text_reads_back :
    (∀ p : CartesianPose, (∀ x ∈ p.numbers, ReadsBack x) →
      CartesianPose.parse p.text = .ok p.readBack) ∧
    (∀ j : JointPose, (∀ x ∈ j.numbers, ReadsBack x) →
      JointPose.parse j.text = .ok j.readBack) :=
  ⟨CartesianPose.parse_text, JointPose.parse_text⟩

/-- Two poses read back: zeros of either sign, quadrants at both ends of their range, an axis
at `9e9` and one beyond it read as unused, and an unused axis stays unused. -/
theorem pose_text_reads_back_sample :
    let p : CartesianPose :=
      { position := ⟨500.5, -0.0, 1e-3⟩, orientation := ⟨0.5, -0.5, 0.5, -0.5⟩,
        config := ⟨-1, 0, 2147483647, -2147483648⟩,
        external := ⟨some 9e9, none, some (-0.0), some 1e10, some 12.25, none⟩ }
    let j : JointPose :=
      { joints := ⟨0, -90, 90.125, -0.0, 1e-7, 180⟩,
        external := ⟨none, some (-3.5), none, none, none, some 9e9⟩ }
    (∀ x ∈ p.numbers, ReadsBack x) ∧ CartesianPose.parse p.text = .ok p.readBack ∧
      (∀ x ∈ j.numbers, ReadsBack x) ∧ JointPose.parse j.text = .ok j.readBack := by
  intro p j
  have hp : ∀ x ∈ p.numbers, ReadsBack x := by decide +kernel
  have hj : ∀ x ∈ j.numbers, ReadsBack x := by decide +kernel
  exact ⟨hp, pose_text_reads_back.1 p hp, hj, pose_text_reads_back.2 j hj⟩

end RobotProgram
