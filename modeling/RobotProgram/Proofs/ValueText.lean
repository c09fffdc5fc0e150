import RobotProgram.Controller.Value
import RobotProgram.Proofs.Session
import RobotProgram.Proofs.PoseText
import RobotProgram.Proofs.LiteralSpelling
import RobotProgram.Proofs.FloatText

/-!
# RobotProgram.Proofs.ValueText

Reading a value back from its text. A value read from a literal is written by `DataValue.text`
with every number in its shortest decimal form; reading that text again lands on the same
shape and type, on a value equal to the first under numeric equality (the two zeros equal, NaN
equal to NaN), and on the same text (`DataValue.parse_text_fixed_point`).

Each shape is written as the literal it spells (`Written`, `Spells`) and its numbers read back by
`readFloat?_plainText`. Writing drops what a text cannot show: the sign of a zero
(`DataValue.unsignZeros`), and for values of other origins a frame's configuration and external
axes, an unset axis, the quotes inside a string. `DataValue.Readable` says that reading never
produces the latter, so the sign of zeros is all that is lost.
-/

namespace RobotProgram

open Literal

/-! ## Numeric equality -/

theorem zero_ne_nan : (0 : Float) ≠ Float.nan := fun h => absurd (congrArg Float.toBits h) (by decide)

theorem negZero_ne_nan : (-0 : Float) ≠ Float.nan :=
  fun h => absurd (congrArg Float.toBits h) (by decide)

/-- A float compares equal to zero exactly when it is one of the two zeros. -/
theorem beq_zero_iff (x : Float) : (x == 0) = true ↔ x = 0 ∨ x = -0 := by
  rw [Float.beq_iff_ne_nan_and_eq]
  constructor
  · rintro ⟨-, -, h | ⟨h, -⟩ | ⟨h, -⟩⟩ <;> simp [h]
  · rintro (rfl | rfl)
    · exact ⟨zero_ne_nan, zero_ne_nan, .inl rfl⟩
    · exact ⟨negZero_ne_nan, zero_ne_nan, .inr (.inr ⟨rfl, rfl⟩)⟩

/-- Dropping the sign of zeros identifies exactly the floats that are numerically equal: equal
as IEEE compares them, or both not a number. -/
theorem dropZeroSign_eq_iff (x y : Float) :
    dropZeroSign x = dropZeroSign y ↔ (x == y) = true ∨ (x.isNaN = true ∧ y.isNaN = true) := by
  have hzero : (0.0 : Float) = 0 := rfl
  rw [Float.beq_iff_ne_nan_and_eq, Float.isNaN_eq_decide_eq_nan, Float.isNaN_eq_decide_eq_nan]
  simp only [decide_eq_true_eq]
  unfold dropZeroSign
  by_cases hx : (x == 0) = true <;> by_cases hy : (y == 0) = true <;>
    simp only [hx, hy, if_true, if_false, Bool.false_eq_true] <;>
    rw [beq_zero_iff] at hx hy
  · -- two zeros
    rcases hx with rfl | rfl <;> rcases hy with rfl | rfl <;> simp [zero_ne_nan, negZero_ne_nan]
  · -- a zero and a nonzero
    rcases hx with rfl | rfl
    · simp_all [eq_comm]
    · simp_all [eq_comm]
  · rcases hy with rfl | rfl
    · simp_all [zero_ne_nan]
    · simp_all [negZero_ne_nan]
  · -- two nonzeros: equal, and the one NaN of the model is equal to itself
    obtain ⟨hx0, hxneg⟩ := not_or.mp hx
    constructor
    · rintro rfl
      by_cases hn : x = Float.nan
      · exact .inr ⟨hn, hn⟩
      · exact .inl ⟨hn, hn, .inl rfl⟩
    · rintro (⟨-, -, h | ⟨h, -⟩ | ⟨h, -⟩⟩ | ⟨h, h'⟩)
      · exact h
      · exact absurd h hx0
      · exact absurd h hxneg
      · rw [h, h']

@[simp] theorem dropZeroSign_dropZeroSign (x : Float) :
    dropZeroSign (dropZeroSign x) = dropZeroSign x := by
  unfold dropZeroSign
  split
  · rfl
  · simp

theorem numberText_dropZeroSign (x : Float) : numberText (dropZeroSign x) = numberText x := by
  unfold dropZeroSign
  split
  · rename_i h
    have hzero : ((0.0 : Float) == 0) = true := rfl
    simp [numberText, h, hzero]
  · rfl

/-! ## Values with the sign of zeros dropped -/

@[simp] theorem Position.toList_readBack (p : Position) :
    p.readBack.toList = p.toList.map dropZeroSign := rfl

@[simp] theorem Quaternion.toList_readBack (q : Quaternion) :
    q.readBack.toList = q.toList.map dropZeroSign := rfl

@[simp] theorem Joints.toList_readBack (j : Joints) :
    j.readBack.toList = j.toList.map dropZeroSign := rfl

namespace ExternalAxes

/-- The axes with the sign of every zero dropped. -/
def unsignZeros (e : ExternalAxes) : ExternalAxes :=
  ⟨e.eaxA.map dropZeroSign, e.eaxB.map dropZeroSign, e.eaxC.map dropZeroSign,
    e.eaxD.map dropZeroSign, e.eaxE.map dropZeroSign, e.eaxF.map dropZeroSign⟩

/-- An axis below `9e9` reads back as itself with the sign of a zero dropped. -/
theorem readBackAxis_eq {a : Option Float} (h : ∀ v ∈ a, ¬externalAxisUnset ≤ v) :
    readBackAxis a = a.map dropZeroSign := by
  cases a with
  | none => rfl
  | some v => simp [readBackAxis, h v rfl]

/-- Axes below `9e9` read back as themselves with the sign of zeros dropped. -/
theorem readBack_eq_unsignZeros {e : ExternalAxes}
    (h : ∀ v ∈ e.numbers, ¬externalAxisUnset ≤ v) : e.readBack = e.unsignZeros := by
  have haxis : ∀ a ∈ e.toList, ∀ v ∈ a, ¬externalAxisUnset ≤ v := fun a ha v hv =>
    h v (List.mem_filterMap.mpr ⟨a, ha, hv⟩)
  simp only [readBack, unsignZeros]
  -- one goal per axis
  congr 1 <;> exact readBackAxis_eq (haxis _ (by simp [toList]))

theorem toList_unsignZeros (e : ExternalAxes) :
    e.unsignZeros.toList = e.toList.map (Option.map dropZeroSign) := rfl

/-- The text of the axes does not show the sign of a zero. -/
theorem text_unsignZeros (e : ExternalAxes) : e.unsignZeros.text = e.text := by
  rw [text, text, toList_unsignZeros, List.map_map]
  congr 3
  refine List.map_congr_left fun a _ => ?_
  cases a <;> simp [numberText_dropZeroSign]

end ExternalAxes

/-- The text of a number list does not show the sign of a zero. -/
theorem numberListText_map_dropZeroSign (xs : List Float) :
    numberListText (xs.map dropZeroSign) = numberListText xs := by
  rw [numberListText, numberListText, List.map_map]
  congr 3
  exact List.map_congr_left fun x _ => numberText_dropZeroSign x

namespace CartesianPose

/-- The pose with the sign of every zero dropped. -/
def unsignZeros (p : CartesianPose) : CartesianPose :=
  { p with position := p.position.readBack, orientation := p.orientation.readBack,
           external := p.external.unsignZeros }

/-- A pose whose axes are below `9e9` reads back as itself with the sign of zeros dropped. -/
theorem readBack_eq_unsignZeros {p : CartesianPose}
    (h : ∀ v ∈ p.external.numbers, ¬externalAxisUnset ≤ v) : p.readBack = p.unsignZeros := by
  simp [readBack, unsignZeros, ExternalAxes.readBack_eq_unsignZeros h]

theorem text_unsignZeros (p : CartesianPose) : p.unsignZeros.text = p.text := by
  simp only [text, unsignZeros, Position.toList_readBack, Quaternion.toList_readBack,
    numberListText_map_dropZeroSign,
    ExternalAxes.text_unsignZeros]

theorem frameText_unsignZeros (p : CartesianPose) : p.unsignZeros.frameText = p.frameText := by
  unfold frameText unsignZeros
  simp only [Position.toList_readBack, Quaternion.toList_readBack, numberListText_map_dropZeroSign]

end CartesianPose

namespace JointPose

/-- The joint pose with the sign of every zero dropped. -/
def unsignZeros (j : JointPose) : JointPose :=
  { joints := j.joints.readBack, external := j.external.unsignZeros }

theorem readBack_eq_unsignZeros {j : JointPose}
    (h : ∀ v ∈ j.external.numbers, ¬externalAxisUnset ≤ v) : j.readBack = j.unsignZeros := by
  simp [readBack, unsignZeros, ExternalAxes.readBack_eq_unsignZeros h]

theorem text_unsignZeros (j : JointPose) : j.unsignZeros.text = j.text := by
  simp only [text, unsignZeros, Joints.toList_readBack, numberListText_map_dropZeroSign,
    ExternalAxes.text_unsignZeros]

end JointPose

namespace LoadData

/-- The load with the sign of every zero dropped. -/
def unsignZeros (l : LoadData) : LoadData :=
  ⟨dropZeroSign l.mass, l.cog.readBack, l.aom.readBack, dropZeroSign l.ix, dropZeroSign l.iy,
    dropZeroSign l.iz⟩

theorem text_unsignZeros (l : LoadData) : l.unsignZeros.text = l.text := by
  unfold text unsignZeros
  rw [Position.toList_readBack, Quaternion.toList_readBack, numberListText_map_dropZeroSign, numberListText_map_dropZeroSign,
    numberText_dropZeroSign, numberText_dropZeroSign, numberText_dropZeroSign,
    numberText_dropZeroSign]

end LoadData

namespace DataValue

/-- The value with the sign of every zero dropped. -/
def unsignZeros : DataValue → DataValue
  | .robtarget p => .robtarget p.unsignZeros
  | .jointtarget j => .jointtarget j.unsignZeros
  | .tooldata t => .tooldata { t with tframe := t.tframe.unsignZeros, load := t.load.unsignZeros }
  | .wobjdata w => .wobjdata { w with uframe := w.uframe.unsignZeros, oframe := w.oframe.unsignZeros }
  | .num x => .num (dropZeroSign x)
  | .bool b => .bool b
  | .str s => .str s

/-- Two values are equal component by component under numeric equality: each zero equals the
other zero, and NaN equals NaN (`dropZeroSign_eq_iff`). -/
def NumEq (v w : DataValue) : Prop := v.unsignZeros = w.unsignZeros

theorem dataType_unsignZeros (v : DataValue) : v.unsignZeros.dataType = v.dataType := by
  cases v <;> rfl

theorem text_unsignZeros (v : DataValue) : v.unsignZeros.text = v.text := by
  cases v <;> unfold text <;> simp [unsignZeros, CartesianPose.text_unsignZeros, JointPose.text_unsignZeros,
    CartesianPose.frameText_unsignZeros, LoadData.text_unsignZeros, numberText_dropZeroSign]

/-- On numbers, numeric equality is IEEE equality, with NaN equal to NaN. -/
theorem numEq_num (x y : Float) :
    (num x).NumEq (num y) ↔ (x == y) = true ∨ (x.isNaN = true ∧ y.isNaN = true) := by
  simp [NumEq, unsignZeros, dropZeroSign_eq_iff]

/-- A value with its zeros unsigned is numerically equal to the value. -/
theorem numEq_unsignZeros (v : DataValue) : v.unsignZeros.NumEq v := by
  cases v <;> simp [NumEq, unsignZeros, CartesianPose.unsignZeros, JointPose.unsignZeros,
    LoadData.unsignZeros, ExternalAxes.unsignZeros, Position.readBack, Quaternion.readBack,
    Joints.readBack, Option.map_map, Function.comp_def]

end DataValue

/-! ## Reading records -/

@[simp] theorem Option.elim_throw_eq_ok {ε α : Type} {o : Option α} {e : ε} {a : α} :
    (o.elim (throw e) pure : Except ε α) = .ok a ↔ o = some a := by
  cases o <;> simp

namespace Literal

theorem eq_list_of_items? {lit : Literal} {items : List Literal} (h : lit.items? = some items) :
    lit = .list items := by
  cases lit <;> simp_all [items?]

theorem exists_list_of_numbers? {lit : Literal} {n : Nat} {xs : List Float}
    (h : lit.numbers? n = some xs) : ∃ items, lit = .list items := by
  cases lit <;> simp_all [numbers?, items?]

end Literal

/-- An axis read from a literal is used only below `9e9`. -/
theorem ExternalAxes.lt_unset_of_ofLiteral? {lit : Literal} {e : ExternalAxes}
    (h : ExternalAxes.ofLiteral? lit = some e) : ∀ v ∈ e.numbers, ¬externalAxisUnset ≤ v := by
  simp only [ExternalAxes.ofLiteral?, Option.bind_eq_bind, Option.bind_eq_some_iff] at h
  obtain ⟨xs, -, hxs⟩ := h
  have htoList : e.toList = xs.map fun v => if v ≥ externalAxisUnset then none else some v := by
    unfold ExternalAxes.ofList? at hxs
    split at hxs
    · rename_i hsix
      cases hxs
      exact hsix.symm
    · cases hxs
  intro v hv
  simp only [ExternalAxes.numbers, htoList, List.mem_filterMap, List.mem_map, id] at hv
  obtain ⟨a, ⟨x, -, rfl⟩, hx⟩ := hv
  split at hx
  · cases hx
  · rename_i hlt
    cases hx
    exact hlt

theorem CartesianPose.parse_eq_ok {t : String} {p : CartesianPose}
    (h : CartesianPose.parse t = .ok p) :
    ∃ xs ori conf ext, Literal.parse t = .ok (.list [.list xs, ori, conf, ext]) ∧
      ExternalAxes.ofLiteral? ext = some p.external := by
  unfold CartesianPose.parse at h
  simp only [Except.bind_eq_ok] at h
  obtain ⟨lit, hlit, h⟩ := h
  split at h
  · rename_i pos ori conf ext hitems
    simp only [Except.bind_eq_ok, Option.elim_throw_eq_ok, Except.pure_eq_ok] at h
    obtain ⟨position, hpos, orientation, -, config, -, external, hext, rfl⟩ := h
    obtain ⟨ns, hns, -⟩ := Option.bind_eq_some_iff.mp hpos
    obtain ⟨xs, rfl⟩ := Literal.exists_list_of_numbers? hns
    exact ⟨xs, ori, conf, ext, by rw [hlit, Literal.eq_list_of_items? hitems], hext⟩
  · simp at h

@[simp] theorem Except.map_eq_ok {ε α β : Type} {f : α → β} {x : Except ε α} {b : β} :
    (f <$> x) = .ok b ↔ ∃ a, x = .ok a ∧ f a = b := by
  cases x <;> simp [Functor.map, Except.map]

/-- A tool or work object frame: a pose with no configuration and no external axes. -/
def CartesianPose.IsFrame (p : CartesianPose) : Prop := p.config = {} ∧ p.external = {}

/-- A frame read from a literal has no configuration and no external axes. -/
theorem isFrame_of_frameOfLiteral? {lit : Literal} {p : CartesianPose}
    (h : frameOfLiteral? lit = some p) : p.IsFrame := by
  unfold frameOfLiteral? at h
  simp only [Option.bind_eq_bind, Option.bind_eq_some_iff] at h
  obtain ⟨items, -, h⟩ := h
  split at h
  · simp only [Option.bind_eq_some_iff, Option.pure_def, Option.some.injEq] at h
    obtain ⟨-, -, -, -, rfl⟩ := h
    exact ⟨rfl, rfl⟩
  · cases h

theorem JointPose.parse_eq_ok {t : String} {j : JointPose} (h : JointPose.parse t = .ok j) :
    ∃ xs ext, Literal.parse t = .ok (.list [.list xs, ext]) ∧
      ExternalAxes.ofLiteral? ext = some j.external := by
  unfold JointPose.parse at h
  simp only [Except.bind_eq_ok] at h
  obtain ⟨lit, hlit, h⟩ := h
  split at h
  · rename_i js ext hitems
    simp only [Except.bind_eq_ok, Option.elim_throw_eq_ok, Except.pure_eq_ok] at h
    obtain ⟨joints, hjoints, external, hext, rfl⟩ := h
    obtain ⟨ns, hns, -⟩ := Option.bind_eq_some_iff.mp hjoints
    obtain ⟨xs, rfl⟩ := Literal.exists_list_of_numbers? hns
    exact ⟨xs, ext, by rw [hlit, Literal.eq_list_of_items? hitems], hext⟩
  · simp at h

/-! ## Values as written -/

/-- A truth value as a token. -/
def Literal.Token.bool (b : Bool) : Token where
  text := boolText b
  plain := by cases b <;> exact Token.plain_of_all (by decide)

theorem scalarValue?_boolText (b : Bool) : scalarValue? (boolText b) = some (.bool b) := by
  cases b <;> rfl

/-- A number text holds no semicolon. -/
theorem semicolon_not_mem_numberText (x : Float) : ';' ∉ (numberText x).toList := by
  intro h
  unfold numberText at h
  split at h
  · simp at h
  · rcases NumeralText.render Layout.plain _ ';' h with hnum | hnan | hinf
    · exact absurd hnum (by decide)
    · exact absurd hnan (by decide)
    · exact absurd hinf (by decide)

/-- A token that is a scalar and does not end in a semicolon parses as the scalar. -/
theorem parse_token {t : Token} {v : Literal} (hv : scalarValue? t.text = some v)
    (hsemi : t.text.toList.getLast? ≠ some ';') : Literal.parse t.text = .ok v := by
  have hspells : Spells (Written.token t).chars v := Spells.written (by simpa [Written.value?])
  have h := parse_of_spells hspells (Text.trimBlankList_of_plain fun c hc => (t.plain c hc).2) hsemi
  simpa [Written.chars] using h

/-- Every list of numbers, as written, stands for its numbers with the sign of zeros dropped. -/
@[simp] theorem Literal.Written.value?_numbers_eq (xs : List Float) :
    (Written.numbers xs).value? = some (.list ((xs.map dropZeroSign).map .num)) :=
  Written.value?_numbers fun x _ => readFloat?_plainText x

theorem Position.numbers?_map_dropZeroSign (p : Position) :
    (Literal.list ((p.toList.map dropZeroSign).map .num)).numbers? 3 =
      some (p.toList.map dropZeroSign) :=
  Literal.numbers?_nums (by simp [Position.toList])

theorem Quaternion.numbers?_map_dropZeroSign (q : Quaternion) :
    (Literal.list ((q.toList.map dropZeroSign).map .num)).numbers? 4 =
      some (q.toList.map dropZeroSign) :=
  Literal.numbers?_nums (by simp [Quaternion.toList])

namespace CartesianPose

/-- The frame part of a pose as written: its position and orientation. -/
def frameWritten (p : CartesianPose) : Written :=
  .list [.numbers p.position.toList, .numbers p.orientation.toList]

theorem frameText_eq (p : CartesianPose) : p.frameText = String.ofList p.frameWritten.chars := by
  unfold frameText
  rw [frameWritten, Written.text_list, numberListText_eq, numberListText_eq]
  simp [String.intercalate_cons_cons, String.append_assoc]

/-- The literal a frame's text reads as. -/
def frameLiteral (p : CartesianPose) : Literal :=
  .list [.list ((p.position.toList.map dropZeroSign).map .num),
    .list ((p.orientation.toList.map dropZeroSign).map .num)]

theorem value?_frameWritten (p : CartesianPose) : p.frameWritten.value? = some p.frameLiteral := by
  simp [frameWritten, Written.value?, Written.values?, frameLiteral]

/-- A frame's literal reads as the frame with the sign of zeros dropped. -/
theorem frameOfLiteral?_frameLiteral {p : CartesianPose} (h : p.IsFrame) :
    frameOfLiteral? p.frameLiteral = some p.unsignZeros := by
  obtain ⟨hconfig, hexternal⟩ := h
  simp only [frameOfLiteral?, frameLiteral, Literal.items?, Position.numbers?_map_dropZeroSign,
    Quaternion.numbers?_map_dropZeroSign, Option.bind_eq_bind, Option.bind_some]
  simp [unsignZeros, hconfig, hexternal, ExternalAxes.unsignZeros, Position.readBack,
    Quaternion.readBack, Position.ofList?, Quaternion.ofList?, Position.toList, Quaternion.toList]

end CartesianPose

namespace LoadData

/-- Load data as written: the mass, the centre of gravity, the axes of moment, the inertias. -/
def written (l : LoadData) : Written :=
  .list [.token (.number l.mass), .numbers l.cog.toList, .numbers l.aom.toList,
    .token (.number l.ix), .token (.number l.iy), .token (.number l.iz)]

theorem text_eq (l : LoadData) : l.text = String.ofList l.written.chars := by
  unfold text
  rw [written, Written.text_list, numberListText_eq, numberListText_eq]
  simp [String.intercalate_cons_cons, String.append_assoc, Written.text_token, Token.number]

/-- The literal a load's text reads as. -/
def literal (l : LoadData) : Literal :=
  .list [.num (dropZeroSign l.mass), .list ((l.cog.toList.map dropZeroSign).map .num),
    .list ((l.aom.toList.map dropZeroSign).map .num), .num (dropZeroSign l.ix),
    .num (dropZeroSign l.iy), .num (dropZeroSign l.iz)]

theorem value?_written (l : LoadData) : l.written.value? = some l.literal := by
  simp [written, Written.value?, Written.values?, literal, Token.number,
    scalarValue?_numberText (readFloat?_plainText _)]

/-- A load's literal reads as the load with the sign of zeros dropped. -/
theorem ofLiteral?_literal (l : LoadData) : ofLiteral? l.literal = some l.unsignZeros := by
  simp only [ofLiteral?, literal, Literal.items?, Position.numbers?_map_dropZeroSign,
    Quaternion.numbers?_map_dropZeroSign, Option.bind_eq_bind, Option.bind_some]
  rfl

end LoadData

namespace DataValue

/-- What reading a text can give: strings hold no quote, tool and work object frames carry no
configuration and no external axes, and no external axis of a target is at or above `9e9`. -/
def Readable : DataValue → Prop
  | .robtarget p => ∀ v ∈ p.external.numbers, ¬externalAxisUnset ≤ v
  | .jointtarget j => ∀ v ∈ j.external.numbers, ¬externalAxisUnset ≤ v
  | .tooldata t => t.tframe.IsFrame
  | .wobjdata w => '"' ∉ w.ufmec.toList ∧ w.uframe.IsFrame ∧ w.oframe.IsFrame
  | .num _ => True
  | .bool _ => True
  | .str s => '"' ∉ s.toList

/-- Every value read from a text is readable. -/
theorem readable_of_parse {t : String} {v : DataValue} (h : parse t = .ok v) : v.Readable := by
  unfold parse at h
  simp only [Except.bind_eq_ok] at h
  obtain ⟨lit, hlit, h⟩ := h
  have hfree := Literal.quoteFree_of_parse hlit
  cases lit with
  | num x =>
    cases h
    trivial
  | bool b =>
    cases h
    trivial
  | str s =>
    cases h
    simpa [Readable] using hfree
  | list items =>
    simp only [ofLiteral] at h
    split at h
    · -- a robtarget: its axes come from the text's own reading
      obtain ⟨p, hp, rfl⟩ := Except.map_eq_ok.mp h
      obtain ⟨-, -, -, ext, -, hext⟩ := CartesianPose.parse_eq_ok hp
      exact ExternalAxes.lt_unset_of_ofLiteral? hext
    · obtain ⟨j, hj, rfl⟩ := Except.map_eq_ok.mp h
      obtain ⟨-, ext, -, hext⟩ := JointPose.parse_eq_ok hj
      exact ExternalAxes.lt_unset_of_ofLiteral? hext
    · split at h
      · rename_i hframe _
        cases h
        exact isFrame_of_frameOfLiteral? hframe
      · cases h
    · split at h
      · rename_i huf hof
        cases h
        simp only [quoteFree_list, List.mem_cons] at hfree
        exact ⟨by simpa using hfree _ (.inr (.inr (.inl rfl))), isFrame_of_frameOfLiteral? huf,
          isFrame_of_frameOfLiteral? hof⟩
      · cases h
    · cases h

theorem parse_eq_ofLiteral {t : String} {lit : Literal} (h : Literal.parse t = .ok lit) :
    parse t = ofLiteral t lit := by
  simp [parse, h, bind, Except.bind]

/-- A tool as written: whether the robot holds it, its frame, its load. -/
def toolWritten (t : ToolData) : Written :=
  .list [.token (.bool t.robhold), t.tframe.frameWritten, t.load.written]

theorem text_tooldata (t : ToolData) : (tooldata t).text = String.ofList (toolWritten t).chars := by
  unfold text
  dsimp only
  rw [toolWritten, Written.text_list, CartesianPose.frameText_eq, LoadData.text_eq]
  simp [String.intercalate_cons_cons, String.append_assoc, Written.text_token, Token.bool]

/-- A work object as spelled, piece by piece: its two truth values, the quoted name of its
mechanical unit and its two frames, each with the literal it spells. A name may hold blanks,
so it is no token and the object is no written list. -/
def wobjPieces (w : WobjData) : List (List Char × Literal) :=
  [((Written.token (.bool w.robhold)).chars, .bool w.robhold),
    ((Written.token (.bool w.ufprog)).chars, .bool w.ufprog),
    ('"' :: (w.ufmec.toList ++ ['"']), .str w.ufmec),
    (w.uframe.frameWritten.chars, w.uframe.frameLiteral),
    (w.oframe.frameWritten.chars, w.oframe.frameLiteral)]

theorem text_wobjdata (w : WobjData) : (wobjdata w).text =
    String.ofList ('[' :: ([','].intercalate ((wobjPieces w).map Prod.fst) ++ [']'])) := by
  unfold text
  dsimp only
  rw [CartesianPose.frameText_eq, CartesianPose.frameText_eq]
  apply String.ext
  simp [wobjPieces, Written.chars, Token.bool, List.intercalate_cons_cons]

theorem spells_wobjPieces {w : WobjData} (hs : '"' ∉ w.ufmec.toList) :
    ∀ p ∈ wobjPieces w, Spells p.1 p.2 := by
  have hbool (b : Bool) : Spells (Written.token (.bool b)).chars (.bool b) :=
    Spells.written (by simp [Written.value?, Token.bool, scalarValue?_boolText])
  have hframe (p : CartesianPose) : Spells p.frameWritten.chars p.frameLiteral :=
    Spells.written (CartesianPose.value?_frameWritten p)
  have hname : Spells ('"' :: (w.ufmec.toList ++ ['"'])) (.str w.ufmec) := by
    simpa using Spells.string hs
  simp [wobjPieces, hbool, hframe, hname]

/-- The text of a readable value parses as the value with the sign of zeros dropped. -/
theorem parse_text {v : DataValue} (hv : v.Readable) : parse v.text = .ok v.unsignZeros := by
  cases v with
  | robtarget p =>
    have hp := CartesianPose.parse_text p fun x _ => readFloat?_plainText x
    obtain ⟨xs, ori, conf, ext, hlit, -⟩ := CartesianPose.parse_eq_ok hp
    rw [CartesianPose.readBack_eq_unsignZeros hv] at hp
    unfold text
    rw [parse_eq_ofLiteral hlit]
    simp [ofLiteral, hp, unsignZeros]
  | jointtarget j =>
    have hj := JointPose.parse_text j fun x _ => readFloat?_plainText x
    obtain ⟨xs, ext, hlit, -⟩ := JointPose.parse_eq_ok hj
    rw [JointPose.readBack_eq_unsignZeros hv] at hj
    unfold text
    rw [parse_eq_ofLiteral hlit]
    simp [ofLiteral, hj, unsignZeros]
  | tooldata t =>
    have hvalues : Written.values? [.token (.bool t.robhold), t.tframe.frameWritten, t.load.written] =
        some [.bool t.robhold, t.tframe.frameLiteral, t.load.literal] := by
      simp [Written.values?, Written.value?, Token.bool, scalarValue?_boolText,
        CartesianPose.value?_frameWritten, LoadData.value?_written]
    rw [text_tooldata, toolWritten, parse_eq_ofLiteral (parse_list hvalues)]
    simp [ofLiteral, CartesianPose.frameOfLiteral?_frameLiteral hv, LoadData.ofLiteral?_literal,
      unsignZeros]
  | wobjdata w =>
    obtain ⟨hs, hu, ho⟩ := hv
    have hread := parse_of_spells (Spells.list (by simp [wobjPieces]) (spells_wobjPieces hs))
      (Text.trimBlankList_ends (by decide) (by decide) _) (by simp [List.getLast?_cons])
    rw [text_wobjdata, parse_eq_ofLiteral hread]
    simp [wobjPieces, ofLiteral, CartesianPose.frameOfLiteral?_frameLiteral hu,
      CartesianPose.frameOfLiteral?_frameLiteral ho, unsignZeros]
  | num x =>
    have hsemi : (numberText x).toList.getLast? ≠ some ';' := fun h =>
      semicolon_not_mem_numberText x (List.mem_of_getLast? h)
    have hlit : Literal.parse (numberText x) = .ok (.num (dropZeroSign x)) :=
      @parse_token (Token.number x) _ (scalarValue?_numberText (readFloat?_plainText x)) hsemi
    unfold text
    rw [parse_eq_ofLiteral hlit]
    rfl
  | bool b =>
    have hlit : Literal.parse (boolText b) = .ok (.bool b) :=
      @parse_token (Token.bool b) _ (scalarValue?_boolText b) (by cases b <;> decide)
    unfold text
    rw [parse_eq_ofLiteral hlit]
    rfl
  | str s =>
    have hread := parse_of_spells (Spells.string hv) (Text.trimBlankList_ends (by decide) (by decide) _)
      (by simp [List.getLast?_cons])
    have htext : (str s).text = String.ofList ('"' :: (s.toList ++ ['"'])) := by
      unfold text
      simp [String.append_assoc]
    rw [htext, parse_eq_ofLiteral hread]
    simp [ofLiteral, unsignZeros]

/-- Reading a value back from its text lands on the same shape and type, on a value equal to it
under numeric equality, and on the same text: the text of a read value is a fixed point of
reading and writing. -/
theorem parse_text_fixed_point {t : String} {v : DataValue} (h : parse t = .ok v) :
    ∃ v', parse v.text = .ok v' ∧ v'.dataType = v.dataType ∧ v'.NumEq v ∧ v'.text = v.text :=
  ⟨v.unsignZeros, parse_text (readable_of_parse h), dataType_unsignZeros v,
    numEq_unsignZeros v, text_unsignZeros v⟩

/-- A work object whose user frame holds a negative zero. -/
def sampleWorkObject : DataValue :=
  .wobjdata ⟨false, true, "ROB_1", ⟨⟨0, -0, 500⟩, ⟨1, 0, 0, 0⟩, {}, {}⟩,
    ⟨⟨0, 0, 0⟩, ⟨1, 0, 0, 0⟩, {}, {}⟩⟩

theorem parse_text_fixed_point_work_object :
    parse sampleWorkObject.text = .ok sampleWorkObject.unsignZeros ∧
      ∃ v', parse sampleWorkObject.unsignZeros.text = .ok v' ∧
        v'.dataType = sampleWorkObject.unsignZeros.dataType ∧
        v'.NumEq sampleWorkObject.unsignZeros ∧ v'.text = sampleWorkObject.unsignZeros.text :=
  have h : parse sampleWorkObject.text = .ok sampleWorkObject.unsignZeros :=
    parse_text ⟨by decide, ⟨rfl, rfl⟩, ⟨rfl, rfl⟩⟩
  ⟨h, parse_text_fixed_point h⟩

end DataValue

end RobotProgram
