import Mathlib
import RobotProgram.Proofs.Compilation
/-!
# RobotProgram.Proofs.Quantizing

Which entry quantizing picks. The distance of a level to a value is computed as the program
computes it, in binary64: the difference rounded, then its absolute value. Quantizing picks the
first entry of least such distance; an entry that ties with an earlier one loses to it.

* The order of binary64 values other than NaN is the order of a key in `ℤ ×ₗ ℤ ×ₗ ℤ`, read
  off the unpacked value the same way the comparison reads it (`lt_iff_orderKey`,
  `le_iff_orderKey`). So on numbers `<` and `≤` are a linear order, ties included.
* The rounded difference of two finite values is a number, and so is its absolute value
  (`isNaN_levelDistance`): no distance between a catalog level and a finite value is a NaN.
* The walk over the entries keeps the first least distance so far (`nearerEntry_step`,
  `foldl_nearerEntry`).

Main statements:
* `quantize_first_least`: on a checked catalog and a finite value, quantizing returns the
  symbol of the first entry of least binary64 distance.
* `quantize_rounding_tie`: rounding can make two different exact distances equal, and then the
  lower entry wins although the upper one is nearer: with levels `0` and `1`, the value
  `2 ^ 60` quantizes to the `0` entry while `2` quantizes to the `1` entry.
-/

open Float.Model Float.Model.UnpackedFloat

/-! ## The order of binary64 values -/

namespace Float.Model.UnpackedFloat

@[simp] theorem Sign.compare_negative_positive : compare Sign.negative Sign.positive = .lt := rfl

@[simp] theorem Sign.compare_positive_negative : compare Sign.positive Sign.negative = .gt := rfl

@[simp] theorem Sign.compare_self (s : Sign) : compare s s = .eq := by cases s <;> rfl

theorem isGE_then_iff : ∀ {o₁ o₂ : Ordering},
    (o₁.then o₂).isGE ↔ o₁ = .gt ∨ (o₁ = .eq ∧ o₂.isGE) := by decide

/-- Where a value stands in the comparison of unpacked values: negative infinity, negative
finite values (greater exponent, then greater mantissa, further down), the zeros, positive
finite values (by exponent, then mantissa), positive infinity. NaN compares with nothing; its
key is never used. -/
def orderKey : UnpackedFloat → ℤ ×ₗ ℤ ×ₗ ℤ
  | .infinity .negative => toLex (0, toLex (0, 0))
  | .finite .negative m e _ => toLex (1, toLex (-e, -(m : ℤ)))
  | .zero _ => toLex (2, toLex (0, 0))
  | .notANumber => toLex (2, toLex (0, 0))
  | .finite .positive m e _ => toLex (3, toLex (e, (m : ℤ)))
  | .infinity .positive => toLex (4, toLex (0, 0))

/-- On numbers, `<` is the order of the keys. The comparison is lexicographic on the exponent
and the mantissa, reversed for negative values, which is what the key spells out. -/
theorem lt_iff_orderKey {a b : UnpackedFloat} (ha : a.isNaN = false) (hb : b.isNaN = false) :
    a.lt b = true ↔ orderKey a < orderKey b := by
  rcases a with ⟨_ | _⟩ | _ | ⟨_ | _⟩ | ⟨_ | _, m, e, hm⟩ <;>
  rcases b with ⟨_ | _⟩ | _ | ⟨_ | _⟩ | ⟨_ | _, n, f, hn⟩ <;>
  simp_all [UnpackedFloat.lt, UnpackedFloat.compare, orderKey, UnpackedFloat.isNaN,
    Prod.Lex.toLex_lt_toLex, Ordering.then_eq_lt, Ordering.swap_eq_lt, Ordering.then_eq_gt,
    compare_lt_iff_lt, compare_gt_iff_gt]

/-- On numbers, `≤` is the order of the keys. -/
theorem le_iff_orderKey {a b : UnpackedFloat} (ha : a.isNaN = false) (hb : b.isNaN = false) :
    a.le b = true ↔ orderKey a ≤ orderKey b := by
  rcases a with ⟨_ | _⟩ | _ | ⟨_ | _⟩ | ⟨_ | _, m, e, hm⟩ <;>
  rcases b with ⟨_ | _⟩ | _ | ⟨_ | _⟩ | ⟨_ | _, n, f, hn⟩ <;>
  simp_all [UnpackedFloat.le, UnpackedFloat.compare, orderKey, UnpackedFloat.isNaN,
    Prod.Lex.toLex_le_toLex, Ordering.isLE_then_iff_or, isGE_then_iff,
    compare_lt_iff_lt, compare_gt_iff_gt, Nat.isLE_compare, Nat.isGE_compare]

/-! ## Rounded differences of numbers are numbers -/

theorem isNaN_roundWithAccuracy (spec : Format) (s : Sign) (m : Nat) (e : Int) (a : Accuracy) :
    (roundWithAccuracy spec s m e a).isNaN = false := by
  unfold roundWithAccuracy
  generalize shiftToTargetExponent spec m e a = first
  obtain ⟨em, e₁⟩ := first
  dsimp only
  generalize shiftToTargetExponent spec em.roundedMantissa e₁ .exact = second
  obtain ⟨em', e₂⟩ := second
  dsimp only
  split <;> rfl

theorem isNaN_normalize (spec : Format) (m e : Int) (zs : Sign) :
    (normalize spec m e zs).isNaN = false := by
  unfold normalize
  split <;> first | rfl | exact isNaN_roundWithAccuracy ..

/-- The difference of two finite values is a number: it is a zero, a finite value or a
rounding of the exact difference, never a NaN. -/
theorem isNaN_sub_of_isFinite {a b : UnpackedFloat} (ha : a.isFinite = true)
    (hb : b.isFinite = true) : (sub Format.binary64 a b).isNaN = false := by
  cases a <;> cases b <;> simp only [UnpackedFloat.isFinite, Bool.false_eq_true] at ha hb
  case zero.zero sa sb =>
    simp only [sub]
    split <;> rfl
  case zero.finite => rfl
  case finite.zero => rfl
  case finite.finite => exact isNaN_normalize ..

/-- Bits unpack to a NaN only with the top exponent and a nonzero mantissa. -/
theorem exponent_of_unpack_isNaN {b : BitVec Format.binary64.numBits}
    (h : (unpack Format.binary64 b).isNaN = true) :
    unpackExponent b = -1#_ ∧ unpackMantissa b ≠ 0#_ := by
  unfold UnpackedFloat.unpack at h
  dsimp only at h
  split at h
  · split at h
    · simp [UnpackedFloat.isNaN] at h
    · exact ⟨‹_›, ‹_›⟩
  · split at h
    · split at h <;> simp [UnpackedFloat.isNaN] at h
    · simp [UnpackedFloat.isNaN] at h

/-- Packing a number gives bits that unpack to a number: an infinity has a zero mantissa, and
a finite value that does not overflow has an exponent below the top one. -/
theorem isNaN_unpack_pack {u : UnpackedFloat} (hu : u.isNaN = false) :
    (unpack Format.binary64 (UnpackedFloat.pack Format.binary64 u)).isNaN = false := by
  cases h : (unpack Format.binary64 (UnpackedFloat.pack Format.binary64 u)).isNaN with
  | false => rfl
  | true =>
    obtain ⟨hexp, hman⟩ := exponent_of_unpack_isNaN h
    exfalso
    cases u with
    | notANumber => simp [UnpackedFloat.isNaN] at hu
    | infinity s => simp [UnpackedFloat.pack, packedInfinity] at hman
    | zero s => simp [UnpackedFloat.pack, packedZero] at hexp
    | finite s m e hm =>
      simp only [UnpackedFloat.pack] at hexp hman
      split_ifs at hexp hman with hover hnormal
      · simp [packedInfinity] at hman
      · -- a normal exponent stays below the top exponent
        have hbits := congrArg BitVec.toNat hexp
        simp [Format.exponentBias] at hbits hover
        omega
      · simp at hexp

end Float.Model.UnpackedFloat

namespace RobotProgram

/-! ## Distances to levels -/

/-- The key of a binary64 value in the order of numbers. -/
def floatKey (x : Float) : ℤ ×ₗ ℤ ×ₗ ℤ := orderKey x.toModel.unpack

theorem lt_iff_floatKey {x y : Float} (hx : x.isNaN = false) (hy : y.isNaN = false) :
    x < y ↔ floatKey x < floatKey y := by
  show x.lt y = true ↔ _
  simp only [Float.lt, decide_eq_true_iff]
  exact lt_iff_orderKey hx hy

theorem le_iff_floatKey {x y : Float} (hx : x.isNaN = false) (hy : y.isNaN = false) :
    x ≤ y ↔ floatKey x ≤ floatKey y := by
  show x.le y = true ↔ _
  simp only [Float.le, decide_eq_true_iff]
  exact le_iff_orderKey hx hy

/-- The distance of an entry's level to a value, as binary64 computes it. -/
def levelDistance (value : Float) (entry : CatalogEntry) : Float :=
  Float.abs (entry.level - value)

theorem unpack_pack_toModel (u : UnpackedFloat) :
    (Float.Model.pack u).unpack = unpack Format.binary64 (UnpackedFloat.pack Format.binary64 u) := by
  simp [Float.Model.unpack, Float.Model.pack]

/-- The distance of a finite level to a finite value is a number. -/
theorem isNaN_levelDistance {value : Float} {entry : CatalogEntry}
    (hv : value.isFinite = true) (hl : entry.level.isFinite = true) :
    (levelDistance value entry).isNaN = false := by
  have hsub := isNaN_unpack_pack (isNaN_sub_of_isFinite hl hv)
  have habs : (unpack Format.binary64 (UnpackedFloat.pack Format.binary64
      (Float.Model.sub entry.level.toModel value.toModel).unpack.abs)).isNaN = false := by
    apply isNaN_unpack_pack
    revert hsub
    simp only [Float.Model.sub, unpack_pack_toModel]
    cases (unpack Format.binary64 (UnpackedFloat.pack Format.binary64
      (sub Format.binary64 entry.level.toModel.unpack value.toModel.unpack))) <;>
      simp [UnpackedFloat.abs, UnpackedFloat.isNaN]
  simpa [levelDistance, Float.isNaN, Float.abs, Float.Model.isNaN, Float.Model.abs,
    unpack_pack_toModel, HSub.hSub, Sub.sub, Float.sub] using habs

/-! ## The walk over the entries -/

section FirstLeast

variable {β κ : Type} [LinearOrder κ]

/-- Position `i` of `xs` holds the first least key: no key is below it, and every earlier key
is above it. -/
def FirstLeast (key : β → κ) (xs : List β) (i : Nat) : Prop :=
  ∃ hi : i < xs.length, (∀ j (hj : j < xs.length), key xs[i] ≤ key xs[j]) ∧
    ∀ j (hj : j < i), key xs[i] < key xs[j]

theorem FirstLeast.singleton (key : β → κ) (x : β) : FirstLeast key [x] 0 :=
  ⟨by simp, fun j hj => by simp at hj; subst hj; rfl, fun j hj => absurd hj (Nat.not_lt_zero j)⟩

/-- A new last element whose key is not below the least one leaves the first least where it
was. -/
theorem FirstLeast.append_of_le {key : β → κ} {xs : List β} {i : Nat} (h : FirstLeast key xs i)
    (x : β) (hle : ∀ hi : i < xs.length, key xs[i] ≤ key x) : FirstLeast key (xs ++ [x]) i := by
  obtain ⟨hi, hleast, hfirst⟩ := h
  refine ⟨by simp; omega, fun j hj => ?_, fun j hj => ?_⟩
  · rw [List.getElem_append_left hi]
    rcases Nat.lt_or_ge j xs.length with hj' | hj'
    · rw [List.getElem_append_left hj']
      exact hleast j hj'
    · have hlast : j = xs.length := by simp at hj; omega
      subst hlast
      rw [List.getElem_concat_length rfl]
      exact hle hi
  · rw [List.getElem_append_left hi, List.getElem_append_left (by omega)]
    exact hfirst j hj

/-- A new last element whose key is below the least one is the new first least. -/
theorem FirstLeast.append_of_lt {key : β → κ} {xs : List β} {i : Nat} (h : FirstLeast key xs i)
    (x : β) (hlt : ∀ hi : i < xs.length, key x < key xs[i]) :
    FirstLeast key (xs ++ [x]) xs.length := by
  obtain ⟨hi, hleast, hfirst⟩ := h
  have hbelow : ∀ j (hj : j < xs.length), key x < key xs[j] :=
    fun j hj => lt_of_lt_of_le (hlt hi) (hleast j hj)
  refine ⟨by simp, fun j hj => ?_, fun j hj => ?_⟩
  · rw [List.getElem_concat_length rfl]
    rcases Nat.lt_or_ge j xs.length with hj' | hj'
    · rw [List.getElem_append_left hj']
      exact (hbelow j hj').le
    · have hlast : j = xs.length := by simp at hj; omega
      subst hlast
      rw [List.getElem_concat_length rfl]
  · rw [List.getElem_concat_length rfl, List.getElem_append_left hj]
    exact hbelow j hj

end FirstLeast

/-- A later entry replaces the best so far only if it is strictly nearer: on numbers, when
its key is below. -/
theorem nearerEntry_step {value : Float} {best entry : CatalogEntry}
    (hbest : (levelDistance value best).isNaN = false)
    (hentry : (levelDistance value entry).isNaN = false) :
    nearerEntry value (some (best, levelDistance value best)) entry =
      if floatKey (levelDistance value best) ≤ floatKey (levelDistance value entry) then
        some (best, levelDistance value best)
      else some (entry, levelDistance value entry) := by
  show (if levelDistance value best ≤ levelDistance value entry then _ else _) = _
  exact if_congr (le_iff_floatKey hbest hentry) rfl rfl

/-- The run lemma of the walk: over entries whose distances are numbers, the best so far is the
first entry of least distance key. The induction adds one entry at a time at the end, each step
by `nearerEntry_step`. -/
theorem foldl_nearerEntry_of_numbers {value : Float} (entries : List CatalogEntry)
    (hnum : ∀ e ∈ entries, (levelDistance value e).isNaN = false) (hne : entries ≠ []) :
    ∃ i, FirstLeast (fun e => floatKey (levelDistance value e)) entries i ∧
      ∃ hi : i < entries.length,
        entries.foldl (nearerEntry value) none = some (entries[i], levelDistance value entries[i]) := by
  induction entries using List.reverseRecOn with
  | nil => exact absurd rfl hne
  | append_singleton init entry ih =>
    rcases List.eq_nil_or_concat init with rfl | ⟨_, _, hinit⟩
    · exact ⟨0, FirstLeast.singleton _ entry, by simp, rfl⟩
    · obtain ⟨i, hfl, hi, hfold⟩ := ih (fun e he => hnum e (by simp [he]))
        (by simp [hinit])
      have hbest := hnum init[i] (by simp)
      have hentry := hnum entry (by simp)
      rw [List.foldl_concat, hfold, nearerEntry_step hbest hentry]
      split
      · rename_i hle
        refine ⟨i, hfl.append_of_le entry fun _ => hle, by simp; omega, ?_⟩
        rw [List.getElem_append_left hi]
      · rename_i hlt
        refine ⟨init.length, hfl.append_of_lt entry fun _ => lt_of_not_ge hlt, by simp, ?_⟩
        rw [List.getElem_concat_length rfl]

/-- Over entries with finite levels and a finite value every distance is a number, so the walk
keeps the first entry of least distance key. -/
theorem foldl_nearerEntry {value : Float} (hv : value.isFinite = true) (entries : List CatalogEntry)
    (hfinite : ∀ e ∈ entries, e.level.isFinite = true) (hne : entries ≠ []) :
    ∃ i, FirstLeast (fun e => floatKey (levelDistance value e)) entries i ∧
      ∃ hi : i < entries.length,
        entries.foldl (nearerEntry value) none = some (entries[i], levelDistance value entries[i]) :=
  foldl_nearerEntry_of_numbers entries (fun e he => isNaN_levelDistance hv (hfinite e he)) hne

/-! ## Quantizing -/

/-- Every level of a checked catalog is finite. -/
theorem MotionCatalog.level_isFinite (c : MotionCatalog) :
    ∀ e ∈ c.entries, e.level.isFinite = true := by
  intro e he
  have hchecked := c.checked
  cases hbad : c.entries.find? (fun e => !e.level.isFinite) with
  | some bad =>
    simp [checkCatalog, hbad, Except.toBool, c.entries_ne_nil] at hchecked
  | none => simpa using List.find?_eq_none.mp hbad e he

/-- Quantizing a finite value on a checked catalog returns the symbol of the first entry of
least binary64 distance: no entry is nearer, and every earlier entry is farther. -/
theorem quantize_first_least (c : MotionCatalog) (value : Float) (hv : value.isFinite = true) :
    ∃ i, ∃ hi : i < c.entries.length,
      c.quantize value = .ok c.entries[i].symbol ∧
      (∀ j (hj : j < c.entries.length),
        levelDistance value c.entries[i] ≤ levelDistance value c.entries[j]) ∧
      ∀ j (hj : j < i), levelDistance value c.entries[i] < levelDistance value c.entries[j] := by
  obtain ⟨i, ⟨hi, hleast, hfirst⟩, hi', hfold⟩ :=
    foldl_nearerEntry hv c.entries c.level_isFinite c.entries_ne_nil
  have hnum : ∀ j (hj : j < c.entries.length), (levelDistance value c.entries[j]).isNaN = false :=
    fun j hj => isNaN_levelDistance hv (c.level_isFinite _ (List.getElem_mem hj))
  refine ⟨i, hi, ?_, fun j hj => ?_, fun j hj => ?_⟩
  · simp [MotionCatalog.quantize, quantize, hv, hfold]
  · exact (le_iff_floatKey (hnum i hi) (hnum j hj)).mpr (hleast j hj)
  · exact (lt_iff_floatKey (hnum i hi) (hnum j (by omega))).mpr (hfirst j hj)

/-- The standard speeds quantize `127` to `v150`, the first entry of least distance. -/
theorem quantize_first_least_standard_speeds :
    (127 : Float).isFinite = true ∧
      ∃ i, ∃ hi : i < MotionCatalog.standardSpeeds.entries.length,
        MotionCatalog.standardSpeeds.quantize 127 =
          .ok MotionCatalog.standardSpeeds.entries[i].symbol ∧
        (∀ j (hj : j < MotionCatalog.standardSpeeds.entries.length),
          levelDistance 127 MotionCatalog.standardSpeeds.entries[i] ≤
            levelDistance 127 MotionCatalog.standardSpeeds.entries[j]) ∧
        ∀ j (hj : j < i), levelDistance 127 MotionCatalog.standardSpeeds.entries[i] <
          levelDistance 127 MotionCatalog.standardSpeeds.entries[j] :=
  ⟨by decide, quantize_first_least MotionCatalog.standardSpeeds 127 (by decide)⟩

/-- An `ok` whose option view holds a value is that value. -/
theorem Except.eq_ok_of_toOption {ε α : Type} {x : Except ε α} {a : α}
    (h : x.toOption = some a) : x = .ok a := by
  cases x <;> simp_all [Except.toOption]

/-- Rounding breaks a tie that exact distances do not have. With levels `0` and `1`, the value
`2 ^ 60` is nearer to `1`, but `|1 - 2 ^ 60|` rounds to `2 ^ 60`, the distance to `0`, and the
lower entry keeps the tie. The value `2` quantizes to the `1` entry, so the selected entry
also moves down as the value grows. -/
theorem quantize_rounding_tie :
    ∃ c : MotionCatalog, MotionCatalog.ofLevels "v" [0, 1] = .ok c ∧
      (1152921504606846976 : Float).toUInt64 = 2 ^ 60 ∧
      c.quantize 2 = .ok "v1" ∧ c.quantize 1152921504606846976 = .ok "v0" :=
  ⟨_, rfl, by decide +kernel, Except.eq_ok_of_toOption (by decide +kernel),
    Except.eq_ok_of_toOption (by decide +kernel)⟩

end RobotProgram
