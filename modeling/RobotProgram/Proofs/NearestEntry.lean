import Mathlib
import RobotProgram.Proofs.Quantizing
import RobotProgram.Proofs.ShortestDigits
/-!
# RobotProgram.Proofs.NearestEntry

Which entry quantizing picks from any list of entries: unsorted, empty, with infinite levels or
with levels that are not a number.

The walk keeps the best entry so far and replaces it unless the new distance is at least the
best one. A comparison with a NaN is false, so an entry whose level is NaN (its distance is NaN)
always takes over, and the entry after it always replaces it in turn (`nearerEntry_of_isNaN`,
`nearerEntry_after_isNaN`). The walk therefore starts afresh after the last NaN level
(`foldl_nearerEntry_from_nan`, `foldl_nearerEntry_restart`), and from there keeps the first
entry of least distance, as on a checked catalog.

Distances are computed in binary64. The difference of two different finite values is never
rounded to zero: below the normal range the format has subnormal values, so every difference is
a multiple of the least one (`sub_rounded_of_orderKey_ne`). So the distance of a level to itself
is zero and to any other finite value positive, and on a checked catalog, whose levels strictly
ascend, every level quantizes to its own entry.

Main statement: `quantize_any_entries`.
-/

open Float.Model Float.Model.UnpackedFloat

namespace Float.Model.UnpackedFloat

/-- A finite value as rounding leaves it: a positive mantissa below `2 ^ 53` at an exponent
from the least one up, with its leading bit set unless it is at the least exponent. Unlike
`Canonical`, the exponent may be past the greatest one; packing then overflows. -/
structure Rounded (m : Nat) (q : Int) : Prop where
  pos : 0 < m
  lt : m < 2 ^ 53
  exp_ge : -1074 ≤ q
  normal_or_least : 2 ^ 52 ≤ m ∨ q = -1074

theorem Canonical.rounded {m : Nat} {q : Int} (h : Canonical m q) : Rounded m q :=
  ⟨h.pos, h.lt, h.exp_ge, h.normal_or_least⟩

/-- Rounding to nearest moves a mantissa up by at most one. -/
theorem roundToNearestEven_bounds (m : Nat) (acc : Accuracy) :
    m ≤ acc.roundToNearestEven m ∧ acc.roundToNearestEven m ≤ m + 1 := by
  cases acc with
  | exact => simp [Accuracy.roundToNearestEven]
  | inexact o => cases o <;> simp [Accuracy.roundToNearestEven]; omega

/-- Shifting a positive mantissa, cut at or below the format's last place from the least
exponent up, to its target exponent leaves a rounded value at that exponent. -/
theorem shiftToTargetExponent_rounded {M : Nat} {E : Int} (hM : 0 < M) (hE : -1074 ≤ E)
    (hcut : E ≤ Format.binary64.targetExponent (totalExponent M E)) (acc : Accuracy) :
    Rounded (shiftToTargetExponent Format.binary64 M E acc).1.mantissa
      (shiftToTargetExponent Format.binary64 M E acc).2 := by
  simp only [shiftToTargetExponent, shiftToExponent, ExtendedMantissa.mantissa_shiftRight,
    ExtendedMantissa.mantissa_ofMantissaAndAccuracy]
  rw [targetExponent_binary64, totalExponent] at hcut ⊢
  have hlow := Nat.log2_self_le hM.ne'
  have hhigh := Nat.lt_log2_self (n := M)
  generalize M.log2 = L at *
  by_cases hL : 52 ≤ L
  · -- a wide mantissa: cut down to exactly 53 bits
    have hk : (max ((L : Int) + 1 + E - 53) (-1074) - E).toNat = L - 52 := by omega
    rw [hk]
    have hp : 2 ^ L = 2 ^ 52 * 2 ^ (L - 52) := by rw [← Nat.pow_add]; congr 1; omega
    have hq : 2 ^ (L + 1) = 2 ^ 53 * 2 ^ (L - 52) := by rw [← Nat.pow_add]; congr 1; omega
    have hnormal : 2 ^ 52 ≤ M / 2 ^ (L - 52) :=
      (Nat.le_div_iff_mul_le (Nat.two_pow_pos _)).mpr (hp ▸ hlow)
    exact ⟨by omega, (Nat.div_lt_iff_lt_mul (Nat.two_pow_pos _)).mpr (hq ▸ hhigh), by omega,
      .inl hnormal⟩
  · -- a short mantissa is cut only at the least exponent, where it stays as it is
    have hk : (max ((L : Int) + 1 + E - 53) (-1074) - E).toNat = 0 := by omega
    rw [hk, Nat.pow_zero, Nat.div_one]
    exact ⟨hM, lt_of_lt_of_le hhigh (Nat.pow_le_pow_right (by decide) (by omega)), by omega,
      .inr (by omega)⟩

/-- Rounding a positive mantissa cut at or below the format's last place, from the least
exponent up, gives a finite rounded value: the second shift, after a carry, keeps it so. -/
theorem roundWithAccuracy_rounded (s : Sign) {M : Nat} {E : Int} (acc : Accuracy) (hM : 0 < M)
    (hE : -1074 ≤ E) (hcut : E ≤ Format.binary64.targetExponent (totalExponent M E)) :
    ∃ m q h, roundWithAccuracy Format.binary64 s M E acc = .finite s m q h ∧ Rounded m q := by
  have hfirst := shiftToTargetExponent_rounded hM hE hcut acc
  unfold roundWithAccuracy
  generalize shiftToTargetExponent Format.binary64 M E acc = first at hfirst
  obtain ⟨em, T⟩ := first
  dsimp only at hfirst ⊢
  obtain ⟨hup, hdown⟩ := roundToNearestEven_bounds em.mantissa em.accuracy
  -- the rounded mantissa is cut at or below the last place again
  have hcut' : T ≤ Format.binary64.targetExponent (totalExponent em.roundedMantissa T) := by
    rw [targetExponent_binary64, totalExponent]
    rcases hfirst.normal_or_least with hnormal | hleast
    · have : 52 ≤ em.roundedMantissa.log2 :=
        (Nat.le_log2 (by unfold ExtendedMantissa.roundedMantissa; omega)).mpr
          (by unfold ExtendedMantissa.roundedMantissa; omega)
      omega
    · omega
  have hsecond := shiftToTargetExponent_rounded
    (by unfold ExtendedMantissa.roundedMantissa; have := hfirst.pos; omega) hfirst.exp_ge hcut' .exact
  generalize shiftToTargetExponent Format.binary64 em.roundedMantissa T .exact = second at hsecond
  obtain ⟨em', q⟩ := second
  dsimp only at hsecond ⊢
  rw [dif_neg hsecond.pos.ne']
  exact ⟨_, _, _, rfl, hsecond⟩

/-- Rounding a positive mantissa from the least exponent up gives a finite rounded value. -/
theorem round_rounded (s : Sign) {m : Nat} {e : Int} (hm : 0 < m) (he : -1074 ≤ e) :
    ∃ m' q h, round Format.binary64 s m e = .finite s m' q h ∧ Rounded m' q := by
  unfold round decreaseExponent
  dsimp only
  -- widening the mantissa down to the target exponent keeps its leading bit where it was
  have hwide : totalExponent (m <<< (e - Format.binary64.targetExponent (totalExponent m e)).toNat)
      (e - ((e - Format.binary64.targetExponent (totalExponent m e)).toNat : Int)) =
      totalExponent m e := by
    rw [totalExponent, totalExponent, Nat.shiftLeft_eq, log2_mul_two_pow hm.ne']
    push_cast
    ring
  apply roundWithAccuracy_rounded
  · rw [Nat.shiftLeft_eq]
    exact Nat.mul_pos hm (Nat.two_pow_pos _)
  · rw [targetExponent_binary64]
    omega
  · rw [hwide]
    omega

/-- A nonzero mantissa from the least exponent up normalizes to a finite rounded value. -/
theorem normalize_rounded {n : Int} {e : Int} (zs : Sign) (hn : n ≠ 0) (he : -1074 ≤ e) :
    ∃ s m q h, normalize Format.binary64 n e zs = .finite s m q h ∧ Rounded m q := by
  unfold normalize
  split
  · rename_i hlt
    exact ⟨_, round_rounded .negative (by have := compare_lt_iff_lt.mp hlt; omega) he⟩
  · rename_i heq
    exact absurd (compare_eq_iff_eq.mp heq) hn
  · rename_i hgt
    exact ⟨_, round_rounded .positive (by have := compare_gt_iff_gt.mp hgt; omega) he⟩

/-! ## Differences of finite values -/

/-- A finite value less itself is the positive zero. -/
theorem sub_self_of_isFinite {a : UnpackedFloat} (ha : a.isFinite = true) :
    sub Format.binary64 a a = .zero .positive := by
  cases a with
  | infinity => simp [UnpackedFloat.isFinite] at ha
  | notANumber => simp [UnpackedFloat.isFinite] at ha
  | zero s => cases s <;> rfl
  | finite s m e hm =>
    simp only [sub, decreaseExponent, min_self, sub_self, Int.toNat_zero, Nat.shiftLeft_zero]
    simp [normalize]

/-- A canonical value at a larger exponent is normal, so written at a smaller exponent its
mantissa is at least `2 ^ 53`, beyond every canonical mantissa. -/
theorem lt_mul_two_pow_of_canonical {m₁ m₂ : Nat} {e₁ e₂ : Int} (h₁ : Canonical m₁ e₁)
    (h₂ : Canonical m₂ e₂) (hlt : e₁ < e₂) : m₁ < m₂ * 2 ^ (e₂ - e₁).toNat := by
  have hnormal := h₂.normal_or_least.resolve_right (by have := h₁.exp_ge; omega)
  calc m₁ < 2 ^ 52 * 2 ^ 1 := by have := h₁.lt; omega
    _ ≤ m₂ * 2 ^ (e₂ - e₁).toNat :=
      Nat.mul_le_mul hnormal (Nat.pow_le_pow_right (by decide) (by omega))

/-- Two different canonical values of one sign differ still when both are written at the
smaller exponent. -/
theorem shiftLeft_ne_of_canonical {m₁ m₂ : Nat} {e₁ e₂ : Int} (h₁ : Canonical m₁ e₁)
    (h₂ : Canonical m₂ e₂) (hne : e₁ ≠ e₂ ∨ m₁ ≠ m₂) :
    m₁ <<< (e₁ - min e₁ e₂).toNat ≠ m₂ <<< (e₂ - min e₁ e₂).toNat := by
  simp only [Nat.shiftLeft_eq]
  rcases lt_trichotomy e₁ e₂ with hlt | heq | hgt
  · rw [min_eq_left hlt.le, sub_self, Int.toNat_zero, pow_zero, mul_one]
    exact (lt_mul_two_pow_of_canonical h₁ h₂ hlt).ne
  · subst heq
    simpa using hne
  · rw [min_eq_right hgt.le, sub_self, Int.toNat_zero, pow_zero, mul_one]
    exact (lt_mul_two_pow_of_canonical h₂ h₁ hgt).ne'

/-- Two different finite canonical values, written at the smaller exponent, have mantissas that
do not cancel. -/
theorem apply_sub_apply_ne_zero {s₁ s₂ : Sign} {m₁ m₂ : Nat} {e₁ e₂ : Int}
    (h₁ : Canonical m₁ e₁) (h₂ : Canonical m₂ e₂)
    (hne : orderKey (.finite s₁ m₁ e₁ h₁.pos) ≠ orderKey (.finite s₂ m₂ e₂ h₂.pos)) :
    s₁.apply (m₁ <<< (e₁ - min e₁ e₂).toNat : Nat) -
      s₂.apply (m₂ <<< (e₂ - min e₁ e₂).toNat : Nat) ≠ 0 := by
  have hpos₁ : 0 < m₁ <<< (e₁ - min e₁ e₂).toNat := by
    rw [Nat.shiftLeft_eq]; exact Nat.mul_pos h₁.pos (Nat.two_pow_pos _)
  have hpos₂ : 0 < m₂ <<< (e₂ - min e₁ e₂).toNat := by
    rw [Nat.shiftLeft_eq]; exact Nat.mul_pos h₂.pos (Nat.two_pow_pos _)
  -- of one sign the keys differ in exponent or mantissa; of opposite signs nothing cancels
  cases s₁ <;> cases s₂ <;> simp only [orderKey, ne_eq, EmbeddingLike.apply_eq_iff_eq,
    Prod.mk.injEq, true_and, neg_inj, Nat.cast_inj, not_and_or, Sign.apply] at hne ⊢
  · have := shiftLeft_ne_of_canonical h₁ h₂ hne
    omega
  · omega
  · omega
  · have := shiftLeft_ne_of_canonical h₁ h₂ hne
    omega

/-- The difference of two different finite values, unpacked as the model unpacks them, is a
finite rounded value: never a zero, whatever the rounding. -/
theorem sub_rounded_of_orderKey_ne {a b : UnpackedFloat} (ha : a.isFinite = true)
    (hb : b.isFinite = true) (hca : ∀ s m q h, a = .finite s m q h → Canonical m q)
    (hcb : ∀ s m q h, b = .finite s m q h → Canonical m q) (hne : orderKey a ≠ orderKey b) :
    ∃ s m q h, sub Format.binary64 a b = .finite s m q h ∧ Rounded m q := by
  cases a <;> cases b <;> simp only [UnpackedFloat.isFinite, Bool.false_eq_true] at ha hb
  case zero.zero => exact absurd rfl hne
  case zero.finite s m q h => exact ⟨-s, m, q, h, rfl, (hcb s m q h rfl).rounded⟩
  case finite.zero s m q h _ => exact ⟨s, m, q, h, rfl, (hca s m q h rfl).rounded⟩
  case finite.finite s₁ m₁ e₁ h₁ s₂ m₂ e₂ h₂ =>
    have hc₁ := hca s₁ m₁ e₁ h₁ rfl
    have hc₂ := hcb s₂ m₂ e₂ h₂ rfl
    simp only [sub, decreaseExponent]
    exact normalize_rounded _ (apply_sub_apply_ne_zero hc₁ hc₂ hne)
      (le_min hc₁.exp_ge hc₂.exp_ge)

/-! ## Storing a rounded value -/

theorem unpack_packedInfinity (s : Sign) :
    unpack Format.binary64 (packedInfinity Format.binary64 s) = .infinity s := by
  cases s <;> rfl

/-- A rounded value is stored as it is, or, past the greatest exponent, as the infinity of its
sign. -/
theorem unpack_pack_rounded (s : Sign) {m : Nat} {q : Int} (h : Rounded m q) :
    unpack Format.binary64 (pack Format.binary64 (.finite s m q h.pos)) = .finite s m q h.pos ∨
      unpack Format.binary64 (pack Format.binary64 (.finite s m q h.pos)) = .infinity s := by
  by_cases hq : q ≤ 971
  · exact .inl (unpack_pack_canonical s ⟨h.pos, h.lt, h.exp_ge, hq, h.normal_or_least⟩)
  · right
    have hbias : Format.binary64.exponentBias = 1023 := rfl
    simp only [pack, hbias]
    rw [if_pos (by simp; omega), unpack_packedInfinity]

end Float.Model.UnpackedFloat

namespace RobotProgram

/-! ## Distances to levels -/

/-- The distance as the model computes it: the difference rounded and stored, then its
absolute value stored. -/
theorem unpack_levelDistance (value : Float) (entry : CatalogEntry) :
    (levelDistance value entry).toModel.unpack =
      unpack Format.binary64 (UnpackedFloat.pack Format.binary64
        (unpack Format.binary64 (UnpackedFloat.pack Format.binary64
          (sub Format.binary64 entry.level.toModel.unpack value.toModel.unpack))).abs) := rfl

/-- The distance of a finite value to itself is the positive zero. -/
theorem floatKey_levelDistance_self {value : Float} (hv : value.isFinite = true)
    (symbol : String) :
    floatKey (levelDistance value ⟨value, symbol⟩) = orderKey (.zero .positive) := by
  rw [floatKey, unpack_levelDistance, sub_self_of_isFinite hv]
  simp [UnpackedFloat.pack, unpack_packedZero, UnpackedFloat.abs]

/-- The stored absolute value of a rounded value is a positive finite value or the positive
infinity: above every zero. -/
theorem zero_lt_orderKey_abs_rounded (s : Sign) {m : Nat} {q : Int} (h : Rounded m q) :
    orderKey (.zero .positive) < orderKey (unpack Format.binary64 (UnpackedFloat.pack
      Format.binary64 (unpack Format.binary64 (UnpackedFloat.pack Format.binary64
        (.finite s m q h.pos))).abs)) := by
  rcases unpack_pack_rounded s h with hstored | hstored <;> rw [hstored]
  · rcases unpack_pack_rounded .positive h with hstored' | hstored' <;>
      simp [UnpackedFloat.abs, hstored', orderKey, Prod.Lex.toLex_lt_toLex]
  · simp [UnpackedFloat.abs, UnpackedFloat.pack, unpack_packedInfinity, orderKey,
      Prod.Lex.toLex_lt_toLex]

/-- The distance of a finite level to a different finite value is above every zero. -/
theorem zero_lt_floatKey_levelDistance {value : Float} {entry : CatalogEntry}
    (hv : value.isFinite = true) (hl : entry.level.isFinite = true)
    (hne : floatKey entry.level ≠ floatKey value) :
    orderKey (.zero .positive) < floatKey (levelDistance value entry) := by
  obtain ⟨s, m, q, h, hsub, hr⟩ := sub_rounded_of_orderKey_ne hl hv
    (fun _ _ _ _ heq => canonical_of_unpack heq) (fun _ _ _ _ heq => canonical_of_unpack heq) hne
  rw [floatKey, unpack_levelDistance, hsub]
  exact zero_lt_orderKey_abs_rounded s hr

/-- A stored NaN stays a NaN, and so does its absolute value. -/
theorem abs_isNaN (u : UnpackedFloat) : u.abs.isNaN = u.isNaN := by
  cases u <;> rfl

/-- The distance of a level to a finite value is a NaN exactly when the level is: an infinite
level is at infinite distance. -/
theorem isNaN_levelDistance_eq {value : Float} (hv : value.isFinite = true) (entry : CatalogEntry) :
    (levelDistance value entry).isNaN = entry.level.isNaN := by
  show (levelDistance value entry).toModel.unpack.isNaN = entry.level.toModel.unpack.isNaN
  have hv' : value.toModel.unpack.isFinite = true := hv
  rw [unpack_levelDistance]
  generalize entry.level.toModel.unpack = level
  generalize value.toModel.unpack = v at hv'
  cases level with
  | notANumber =>
    simp [UnpackedFloat.sub, UnpackedFloat.pack, unpack_packedNaN, UnpackedFloat.abs,
      UnpackedFloat.isNaN]
  | infinity s =>
    cases v <;> simp only [UnpackedFloat.isFinite, Bool.false_eq_true] at hv' <;>
      simp [UnpackedFloat.sub, UnpackedFloat.pack, unpack_packedInfinity, UnpackedFloat.abs,
        UnpackedFloat.isNaN]
  | zero _ | finite _ _ _ _ =>
    -- a finite level and a finite value have a difference that is a number
    exact isNaN_unpack_pack ((abs_isNaN _).trans (isNaN_unpack_pack (isNaN_sub_of_isFinite rfl hv')))

/-! ## The walk past NaN levels -/

/-- Nothing is at most a NaN. -/
theorem not_le_of_isNaN_right {x y : Float} (hy : y.isNaN = true) : ¬x ≤ y := by
  have hnan : y.toModel.unpack = .notANumber := isNaN_iff.mp hy
  show ¬x.le y = true
  simp only [Float.le, decide_eq_true_iff]
  show ¬x.toModel.unpack.le y.toModel.unpack = true
  rw [hnan]
  cases x.toModel.unpack <;> simp [UnpackedFloat.le, UnpackedFloat.compare]

/-- A NaN is at most nothing. -/
theorem not_le_of_isNaN_left {x y : Float} (hx : x.isNaN = true) : ¬x ≤ y := by
  have hnan : x.toModel.unpack = .notANumber := isNaN_iff.mp hx
  show ¬x.le y = true
  simp only [Float.le, decide_eq_true_iff]
  show ¬x.toModel.unpack.le y.toModel.unpack = true
  rw [hnan]
  simp [UnpackedFloat.le, UnpackedFloat.compare]

/-- An entry at NaN distance replaces any best so far: it is not at least as far. -/
theorem nearerEntry_of_isNaN {value : Float} (best : Option (CatalogEntry × Float))
    {entry : CatalogEntry} (h : (levelDistance value entry).isNaN = true) :
    nearerEntry value best entry = some (entry, levelDistance value entry) := by
  unfold nearerEntry
  rcases best with _ | ⟨b, bd⟩
  · rfl
  · exact if_neg (not_le_of_isNaN_right h)

/-- A best so far at NaN distance is replaced by the next entry, as if there were none. -/
theorem nearerEntry_after_isNaN {value : Float} {b : CatalogEntry} {bd : Float}
    (h : bd.isNaN = true) (entry : CatalogEntry) :
    nearerEntry value (some (b, bd)) entry = nearerEntry value none entry :=
  if_neg (not_le_of_isNaN_left h)

/-- The walk reaches an entry at NaN distance holding that entry, whatever came before. -/
theorem foldl_nearerEntry_from_nan {value : Float} (entries : List CatalogEntry) {j : Nat}
    (hj : j < entries.length) (hnan : (levelDistance value entries[j]).isNaN = true) :
    entries.foldl (nearerEntry value) none =
      (entries.drop (j + 1)).foldl (nearerEntry value)
        (some (entries[j], levelDistance value entries[j])) := by
  conv_lhs => rw [← List.take_append_drop j entries, List.drop_eq_getElem_cons hj]
  rw [List.foldl_append, List.foldl_cons, nearerEntry_of_isNaN _ hnan]

/-- After an entry at NaN distance the walk over more entries starts afresh. -/
theorem foldl_nearerEntry_restart {value : Float} {b : CatalogEntry} {bd : Float}
    (h : bd.isNaN = true) {rest : List CatalogEntry} (hne : rest ≠ []) :
    rest.foldl (nearerEntry value) (some (b, bd)) = rest.foldl (nearerEntry value) none := by
  cases rest with
  | nil => exact absurd rfl hne
  | cons entry rest => rw [List.foldl_cons, List.foldl_cons, nearerEntry_after_isNaN h]

/-! ## Which entry is picked -/

/-- Entry `i` is the first nearest to the value from position `start` on: no entry from `start`
on is nearer, and every one from `start` up to `i` is farther, distances computed in binary64. -/
def FirstNearestFrom (value : Float) (entries : List CatalogEntry) (start i : Nat)
    (hi : i < entries.length) : Prop :=
  start ≤ i ∧
    (∀ k (hk : k < entries.length), start ≤ k →
      levelDistance value entries[i] ≤ levelDistance value entries[k]) ∧
    ∀ k (hk : k < i), start ≤ k → levelDistance value entries[i] < levelDistance value entries[k]

/-- The first least distance key among the entries from `start` on is the first nearest entry
from there, when those distances are numbers. -/
theorem firstNearestFrom_of_firstLeast {value : Float} {entries : List CatalogEntry}
    {start i : Nat}
    (hnum : ∀ k (hk : k < entries.length), start ≤ k →
      (levelDistance value entries[k]).isNaN = false)
    (hfl : FirstLeast (fun e => floatKey (levelDistance value e)) (entries.drop start) i) :
    ∃ hi : start + i < entries.length, FirstNearestFrom value entries start (start + i) hi := by
  obtain ⟨hi, hleast, hfirst⟩ := hfl
  have hi' : start + i < entries.length := by simp at hi; omega
  refine ⟨hi', by omega, fun k hk hsk => ?_, fun k hk hsk => ?_⟩
  · have hkey := hleast (k - start) (by simp; omega)
    simp only [List.getElem_drop, Nat.add_sub_cancel' hsk] at hkey
    exact (le_iff_floatKey (hnum _ hi' (by omega)) (hnum k hk hsk)).mpr hkey
  · have hkey := hfirst (k - start) (by omega)
    simp only [List.getElem_drop, Nat.add_sub_cancel' hsk] at hkey
    exact (lt_iff_floatKey (hnum _ hi' (by omega)) (hnum k (by omega) hsk)).mpr hkey

/-- With no NaN level, a finite value quantizes to the first nearest entry. -/
theorem quantize_of_no_nan {value : Float} (hv : value.isFinite = true)
    {entries : List CatalogEntry} (hne : entries ≠ [])
    (hnum : ∀ e ∈ entries, e.level.isNaN = false) :
    ∃ i, ∃ hi : i < entries.length,
      FirstNearestFrom value entries 0 i hi ∧ quantize entries value = .ok entries[i].symbol := by
  have hdist : ∀ e ∈ entries, (levelDistance value e).isNaN = false := fun e he => by
    rw [isNaN_levelDistance_eq hv]
    exact hnum e he
  obtain ⟨i, hfl, hi, hfold⟩ := foldl_nearerEntry_of_numbers entries hdist hne
  obtain ⟨hi', hnear⟩ := firstNearestFrom_of_firstLeast
    (fun k hk (_ : 0 ≤ k) => hdist _ (List.getElem_mem hk)) (by simpa using hfl)
  simp only [Nat.zero_add] at hi' hnear
  exact ⟨i, hi', hnear, by simp [quantize, hv, hfold]⟩

/-- After the last NaN level the walk starts afresh: a finite value quantizes to the NaN entry
itself if it is the last one, and else to the first nearest entry after it. -/
theorem quantize_after_last_nan {value : Float} (hv : value.isFinite = true)
    {entries : List CatalogEntry} {j : Nat} (hj : j < entries.length)
    (hnan : entries[j].level.isNaN = true)
    (hlast : ∀ k (hk : k < entries.length), j < k → entries[k].level.isNaN = false) :
    (j + 1 = entries.length → quantize entries value = .ok entries[j].symbol) ∧
    (j + 1 < entries.length → ∃ i, ∃ hi : i < entries.length,
      FirstNearestFrom value entries (j + 1) i hi ∧
        quantize entries value = .ok entries[i].symbol) := by
  have hdj : (levelDistance value entries[j]).isNaN = true := by
    rw [isNaN_levelDistance_eq hv]
    exact hnan
  have hsplit := foldl_nearerEntry_from_nan entries hj hdj
  refine ⟨fun hend => ?_, fun hmore => ?_⟩
  · -- nothing after the NaN entry: it is the best at the end
    have hnil : entries.drop (j + 1) = [] := List.drop_eq_nil_of_le (by omega)
    simp [quantize, hv, hsplit, hnil]
  · have hne : entries.drop (j + 1) ≠ [] := by simp; omega
    rw [foldl_nearerEntry_restart hdj hne] at hsplit
    have hafter : ∀ k (hk : k < entries.length), j + 1 ≤ k →
        (levelDistance value entries[k]).isNaN = false := fun k hk hjk => by
      rw [isNaN_levelDistance_eq hv]
      exact hlast k hk (by omega)
    have hnum : ∀ e ∈ entries.drop (j + 1), (levelDistance value e).isNaN = false := by
      intro e he
      obtain ⟨k, hk, rfl⟩ := List.getElem_of_mem he
      rw [List.getElem_drop]
      exact hafter _ _ (by omega)
    obtain ⟨i, hfl, hi, hfold⟩ := foldl_nearerEntry_of_numbers _ hnum hne
    obtain ⟨hi', hnear⟩ := firstNearestFrom_of_firstLeast hafter hfl
    refine ⟨j + 1 + i, hi', hnear, ?_⟩
    simp [quantize, hv, hsplit, hfold, List.getElem_drop]

/-! ## Checked catalogs -/

/-- Strictly ascending numbers ascend in key order pairwise, not only next to each other. -/
theorem strictlyAscending_pairwise {xs : List Float} (hnan : ∀ x ∈ xs, x.isNaN = false)
    (h : strictlyAscending xs = true) : xs.Pairwise (fun a b => floatKey a < floatKey b) := by
  induction xs with
  | nil => exact .nil
  | cons a rest ih =>
    cases rest with
    | nil => exact List.pairwise_singleton _ a
    | cons b rest =>
      simp only [strictlyAscending, Bool.and_eq_true, decide_eq_true_eq] at h
      have hab : floatKey a < floatKey b :=
        (lt_iff_floatKey (hnan a (by simp)) (hnan b (by simp))).mp h.1
      have htail := ih (fun x hx => hnan x (List.mem_cons_of_mem a hx)) h.2
      refine List.Pairwise.cons (fun y hy => ?_) htail
      rcases List.mem_cons.mp hy with rfl | hy
      · exact hab
      · exact hab.trans (List.rel_of_pairwise_cons htail hy)

/-- A finite value is a number. -/
theorem isNaN_of_isFinite {x : Float} (h : x.isFinite = true) : x.isNaN = false := by
  revert h
  show x.toModel.unpack.isFinite = true → x.toModel.unpack.isNaN = false
  cases x.toModel.unpack <;> simp [UnpackedFloat.isFinite, UnpackedFloat.isNaN]

/-- The levels of a checked catalog strictly ascend. -/
theorem MotionCatalog.levels_strictlyAscending (c : MotionCatalog) :
    strictlyAscending (c.entries.map (·.level)) = true := by
  have hchecked := c.checked
  cases hbad : c.entries.find? (fun e => !e.level.isFinite) with
  | some bad => simp [checkCatalog, hbad, Except.toBool, c.entries_ne_nil] at hchecked
  | none =>
    by_contra hnot
    simp [checkCatalog, hbad, hnot, Except.toBool, c.entries_ne_nil] at hchecked

/-- Different entries of a checked catalog have levels of different keys. -/
theorem MotionCatalog.floatKey_level_ne (c : MotionCatalog) {i k : Nat} (hi : i < c.entries.length)
    (hk : k < c.entries.length) (hik : i ≠ k) :
    floatKey c.entries[i].level ≠ floatKey c.entries[k].level := by
  have hnan : ∀ x ∈ c.entries.map (·.level), x.isNaN = false := by
    intro x hx
    obtain ⟨e, he, rfl⟩ := List.mem_map.mp hx
    exact isNaN_of_isFinite (c.level_isFinite e he)
  have hpair := List.pairwise_iff_getElem.mp
    (strictlyAscending_pairwise hnan c.levels_strictlyAscending)
  rcases Nat.lt_or_gt_of_ne hik with hlt | hgt
  · have h := hpair i k (by simpa using hi) (by simpa using hk) hlt
    rw [List.getElem_map, List.getElem_map] at h
    exact h.ne
  · have h := hpair k i (by simpa using hk) (by simpa using hi) hgt
    rw [List.getElem_map, List.getElem_map] at h
    exact h.ne'

/-- On a checked catalog every level quantizes to its own entry: its distance to itself is zero,
and its distance to every other level is positive. -/
theorem MotionCatalog.quantize_level (c : MotionCatalog) {k : Nat} (hk : k < c.entries.length) :
    c.quantize c.entries[k].level = .ok c.entries[k].symbol := by
  have hv := c.level_isFinite _ (List.getElem_mem hk)
  obtain ⟨i, ⟨hi, hleast, -⟩, hi', hfold⟩ :=
    foldl_nearerEntry hv c.entries c.level_isFinite c.entries_ne_nil
  have hself : floatKey (levelDistance c.entries[k].level c.entries[k]) =
      orderKey (.zero .positive) := floatKey_levelDistance_self hv c.entries[k].symbol
  have hik : i = k := by
    by_contra hne
    have hfar := zero_lt_floatKey_levelDistance hv (c.level_isFinite _ (List.getElem_mem hi'))
      (c.floatKey_level_ne hi' hk hne)
    have hnear := hleast k hk
    dsimp only at hnear
    rw [hself] at hnear
    exact absurd hnear (not_le.mpr hfar)
  subst hik
  simp [MotionCatalog.quantize, RobotProgram.quantize, hv, hfold]

/-- Quantizing over any list of entries: a value that is not finite is refused first, then an
empty list. Otherwise, with no NaN level, the value quantizes to the first entry of least
binary64 distance `|level - value|`. With NaN levels, from the last of them on: to that entry
if it is the last one, and else to the first of least distance among the entries after it. On a
checked catalog every level quantizes to its own entry. -/
theorem quantize_any_entries :
    (∀ entries value, value.isFinite = false →
      quantize entries value = .error (.invalidLevel value)) ∧
    (∀ value, value.isFinite = true →
      quantize [] value = .error (.invalidCatalog "catalog has no levels")) ∧
    (∀ entries value, value.isFinite = true → entries ≠ [] →
      (∀ e ∈ entries, e.level.isNaN = false) →
      ∃ i, ∃ hi : i < entries.length,
        FirstNearestFrom value entries 0 i hi ∧ quantize entries value = .ok entries[i].symbol) ∧
    (∀ entries value j (hj : j < entries.length), value.isFinite = true →
      entries[j].level.isNaN = true →
      (∀ k (hk : k < entries.length), j < k → entries[k].level.isNaN = false) →
      (j + 1 = entries.length → quantize entries value = .ok entries[j].symbol) ∧
      (j + 1 < entries.length → ∃ i, ∃ hi : i < entries.length,
        FirstNearestFrom value entries (j + 1) i hi ∧
          quantize entries value = .ok entries[i].symbol)) ∧
    ∀ (c : MotionCatalog) k (hk : k < c.entries.length),
      c.quantize c.entries[k].level = .ok c.entries[k].symbol :=
  ⟨fun _ _ hv => by simp [quantize, hv], fun _ hv => by simp [quantize, hv],
    fun _ _ hv hne hnum => quantize_of_no_nan hv hne hnum,
    fun _ _ _ hj hv hnan hlast => quantize_after_last_nan hv hj hnan hlast,
    fun c _ hk => c.quantize_level hk⟩

end RobotProgram
