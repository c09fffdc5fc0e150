import Mathlib
import RobotProgram.Proofs.NumberText
/-!
# RobotProgram.Proofs.Rounding

Rounding in the binary64 model, measured on the rationals.

A finite binary64 value is `m * 2 ^ q` with `(m, q)` canonical (`Canonical`): a mantissa of 53
bits, or a smaller one at the least exponent. The rationals that round to it, to nearest with
ties to even, form an interval around it (`RoundsTo`).

The model rounds in two steps. It cuts the exact value down to a mantissa and an `Accuracy`
that says where the rest lies (`Accuracy.Describes`); then it shifts the mantissa to the
format's last place, rounds it, and shifts once more if rounding carried into a new bit.

Main statements:
* `roundWithAccuracy_eq_of_roundsTo`: rounding a value cut at or below the format's last place
  gives the canonical value whose interval holds it;
* `mul_eq_of_roundsTo` and `div_eq_of_roundsTo`: a product and a quotient of finite values are
  rounded once;
* `ofScientific_eq_of_roundsTo`: so is `m * 10 ^ e`, on both paths of `Float.ofScientific`.
-/

open Float.Model

namespace Float.Model.UnpackedFloat

/-! ## What an accuracy says -/

/-- What an accuracy says of a value `v`, measured in units of the mantissa's last place, next
to the mantissa `m`: `v` is `m`, or it lies strictly between `m` and `m + 1`, on the given side
of the middle. -/
def Accuracy.Describes (m : Nat) (v : ℚ) : Accuracy → Prop
  | .exact => v = m
  | .inexact o => (m : ℚ) < v ∧ v < m + 1 ∧ compare v (m + 1 / 2) = o

namespace Accuracy.Describes

variable {acc : Accuracy} {m : Nat} {v : ℚ}

theorem le (h : acc.Describes m v) : (m : ℚ) ≤ v := by
  cases acc <;> simp only [Accuracy.Describes] at h
  · exact h.ge
  · exact h.1.le

theorem lt_succ (h : acc.Describes m v) : v < m + 1 := by
  cases acc <;> simp only [Accuracy.Describes] at h
  · rw [h]
    linarith
  · exact h.2.1

end Accuracy.Describes

namespace ExtendedMantissa

@[simp] theorem mantissa_ofMantissaAndAccuracy (m : Nat) (acc : Accuracy) :
    (ofMantissaAndAccuracy m acc).mantissa = m := by
  unfold ofMantissaAndAccuracy
  split <;> rfl

@[simp] theorem accuracy_ofMantissaAndAccuracy (m : Nat) (acc : Accuracy) :
    (ofMantissaAndAccuracy m acc).accuracy = acc := by
  unfold ofMantissaAndAccuracy
  split <;> rfl

/-- What a mantissa with its round and sticky bits says of a value. -/
def Describes (em : ExtendedMantissa) (v : ℚ) : Prop :=
  em.accuracy.Describes em.mantissa v

/-- Shifting out one bit halves the value: the bit shifted out becomes the round bit, and the
old round and sticky bits the sticky bit. -/
theorem Describes.shiftRightOne {em : ExtendedMantissa} {v : ℚ} (h : em.Describes v) :
    em.shiftRightOne.Describes (v / 2) := by
  obtain ⟨m, r, s⟩ := em
  have hsplit : (m : ℚ) = 2 * ((m / 2 : ℕ) : ℚ) + ((m % 2 : ℕ) : ℚ) := by
    exact_mod_cast (Nat.div_add_mod m 2).symm
  have hodd : ((1 : ℕ) != 0) = true := rfl
  -- eight cases: the parity of the mantissa, and the two residual bits
  rcases Nat.mod_two_eq_zero_or_one m with hp | hp <;> rw [hp] at hsplit <;>
    cases r <;> cases s <;>
    simp only [Describes, accuracy, Accuracy.Describes, ExtendedMantissa.shiftRightOne, hp, hodd,
      bne_self_eq_false, Bool.or_false, Bool.or_true, Nat.cast_zero,
      Nat.cast_one, add_zero, compare_lt_iff_lt, compare_gt_iff_gt, compare_eq_iff_eq]
      at h hsplit ⊢
  all_goals (try refine ⟨?_, ?_, ?_⟩) <;> linarith

/-- Shifting out `n` bits divides the value by `2 ^ n`. -/
theorem Describes.shiftRight {em : ExtendedMantissa} {v : ℚ} (h : em.Describes v) (n : Nat) :
    (em >>> n).Describes (v / 2 ^ n) := by
  induction n with
  | zero =>
    show em.Describes (v / 2 ^ 0)
    simpa using h
  | succ n ih =>
    rw [pow_succ, ← div_div]
    exact ih.shiftRightOne

theorem mantissa_shiftRight (em : ExtendedMantissa) (n : Nat) :
    (em >>> n).mantissa = em.mantissa / 2 ^ n := by
  induction n with
  | zero => simp; rfl
  | succ n ih =>
    show (em >>> n).shiftRightOne.mantissa = _
    rw [ExtendedMantissa.shiftRightOne, ih, Nat.div_div_eq_div_mul, Nat.pow_succ]

end ExtendedMantissa

/-! ## Rounding to nearest, ties to even -/

/-- `n` is an integer nearest to `v`, and the even one when `v` lies halfway between two. -/
def NearestEven (v : ℚ) (n : Nat) : Prop :=
  ((n : ℚ) - 1 / 2 < v ∨ (n % 2 = 0 ∧ v = n - 1 / 2)) ∧
    (v < n + 1 / 2 ∨ (n % 2 = 0 ∧ v = n + 1 / 2))

/-- Rounding a described mantissa lands on the nearest integer, the even one on a tie. -/
theorem Accuracy.roundToNearestEven_eq {acc : Accuracy} {m n : Nat} {v : ℚ}
    (h : acc.Describes m v) (hn : NearestEven v n) : acc.roundToNearestEven m = n := by
  obtain ⟨hlo, hhi⟩ := hn
  -- the integers within half a unit of `v` are `m` and `m + 1`
  have hnm : n = m ∨ n = m + 1 := by
    have hle := h.le
    have hlt := h.lt_succ
    have h1 : (m : ℚ) < n + 1 := by rcases hhi with hhi | ⟨-, hhi⟩ <;> linarith
    have h2 : (n : ℚ) < m + 2 := by rcases hlo with hlo | ⟨-, hlo⟩ <;> linarith
    have h1' : m < n + 1 := by exact_mod_cast h1
    have h2' : n < m + 2 := by exact_mod_cast h2
    omega
  cases acc with
  | exact =>
    simp only [Accuracy.Describes] at h
    rcases hnm with rfl | rfl
    · rfl
    · push_cast at hlo
      rcases hlo with hlo | ⟨-, hlo⟩ <;> linarith
  | inexact o =>
    obtain ⟨hm, hm', ho⟩ := h
    rcases hnm with rfl | rfl <;> cases o <;>
      simp only [compare_lt_iff_lt, compare_eq_iff_eq, compare_gt_iff_gt] at ho <;>
      push_cast at hlo hhi
    · rfl
    · -- halfway: `n` is the even one of the two
      rcases hhi with hhi | ⟨hev, -⟩
      · linarith
      · simp only [Accuracy.roundToNearestEven]
        omega
    · rcases hhi with hhi | ⟨-, hhi⟩ <;> linarith
    · rcases hlo with hlo | ⟨-, hlo⟩ <;> linarith
    · rcases hlo with hlo | ⟨hev, -⟩
      · linarith
      · simp only [Accuracy.roundToNearestEven]
        omega
    · rfl

/-! ## Canonical values and the rationals that round to them -/

/-- A finite nonzero binary64 magnitude `m * 2 ^ q` as the model keeps it: a 53-bit mantissa at
an exponent between the least and the greatest, or a smaller mantissa at the least exponent. -/
structure Canonical (m : Nat) (q : Int) : Prop where
  pos : 0 < m
  lt : m < 2 ^ 53
  exp_ge : -1074 ≤ q
  exp_le : q ≤ 971
  normal_or_least : 2 ^ 52 ≤ m ∨ q = -1074

/-- The rationals that round to `m * 2 ^ q`, to nearest with ties to even: those within half a
gap of it on either side, the ends included when `m` is even. At the bottom of a binade above
the subnormals the gap below is half the gap above. -/
def RoundsTo (m : Nat) (q : Int) (r : ℚ) : Prop :=
  let below : ℚ := if m = 2 ^ 52 ∧ -1074 < q then 1 / 4 else 1 / 2
  (((m : ℚ) - below) * 2 ^ q < r ∨ (m % 2 = 0 ∧ r = ((m : ℚ) - below) * 2 ^ q)) ∧
    (r < ((m : ℚ) + 1 / 2) * 2 ^ q ∨ (m % 2 = 0 ∧ r = ((m : ℚ) + 1 / 2) * 2 ^ q))

theorem targetExponent_binary64 (t : Int) :
    Format.binary64.targetExponent t = max (t - 53) (-1074) := rfl

theorem two_zpow_pos (q : Int) : (0 : ℚ) < 2 ^ q := zpow_pos two_pos q

theorem two_pow_mul_two_zpow (a : Nat) (q : Int) : (2 : ℚ) ^ a * 2 ^ q = 2 ^ ((a : Int) + q) := by
  rw [zpow_add₀ two_ne_zero, zpow_natCast]

theorem lt_of_two_zpow_lt {a b : Int} (h : (2 : ℚ) ^ a < 2 ^ b) : a < b :=
  (zpow_lt_zpow_iff_right₀ one_lt_two).mp h

namespace RoundsTo

variable {m : Nat} {q : Int} {r : ℚ}

theorem le_upper (h : RoundsTo m q r) : r ≤ ((m : ℚ) + 1 / 2) * 2 ^ q := by
  rcases h.2 with h | ⟨-, h⟩
  · exact h.le
  · exact h.le

theorem lower_le (h : RoundsTo m q r) : ((m : ℚ) - 1 / 2) * 2 ^ q ≤ r := by
  have hq := two_zpow_pos q
  obtain ⟨hlo, -⟩ := h
  have hbelow : ((m : ℚ) - 1 / 2) * 2 ^ q ≤
      ((m : ℚ) - if m = 2 ^ 52 ∧ -1074 < q then 1 / 4 else 1 / 2) * 2 ^ q := by
    split_ifs <;> nlinarith
  rcases hlo with hlo | ⟨-, hlo⟩ <;> linarith

theorem narrow_lower_le (h : RoundsTo m q r) (hm : m = 2 ^ 52) (hq : -1074 < q) :
    ((m : ℚ) - 1 / 4) * 2 ^ q ≤ r := by
  obtain ⟨hlo, -⟩ := h
  rw [if_pos ⟨hm, hq⟩] at hlo
  rcases hlo with hlo | ⟨-, hlo⟩ <;> linarith

/-- Away from the bottom of a binade, or above it, `r` rounds on the grid of `2 ^ q`. -/
theorem nearestEven (h : RoundsTo m q r) (hnot : ¬(m = 2 ^ 52 ∧ -1074 < q ∧ r < m * 2 ^ q)) :
    NearestEven (r / 2 ^ q) m := by
  have hq := two_zpow_pos q
  obtain ⟨hlo, hhi⟩ := h
  refine ⟨?_, ?_⟩
  · split_ifs at hlo with hnarrow
    · -- at the bottom of a binade `r` is at least the value itself
      have hx : (m : ℚ) * 2 ^ q ≤ r := not_lt.mp fun hr => hnot ⟨hnarrow.1, hnarrow.2, hr⟩
      left
      rw [lt_div_iff₀ hq]
      nlinarith
    · rcases hlo with hlo | ⟨hev, hlo⟩
      · exact .inl ((lt_div_iff₀ hq).mpr hlo)
      · exact .inr ⟨hev, (div_eq_iff hq.ne').mpr hlo⟩
  · rcases hhi with hhi | ⟨hev, hhi⟩
    · exact .inl ((div_lt_iff₀ hq).mpr hhi)
    · exact .inr ⟨hev, (div_eq_iff hq.ne').mpr hhi⟩

/-- Just under the bottom of a binade, `r` rounds on the grid of `2 ^ (q - 1)`, to twice the
mantissa. -/
theorem nearestEven_carry (h : RoundsTo m q r) (hlow : m = 2 ^ 52 ∧ -1074 < q ∧ r < m * 2 ^ q) :
    NearestEven (r / 2 ^ (q - 1)) (2 * m) := by
  obtain ⟨hm, hq', hr⟩ := hlow
  have hq := two_zpow_pos q
  have hhalf : r / 2 ^ (q - 1) = 2 * (r / 2 ^ q) := by
    rw [zpow_sub_one₀ two_ne_zero]
    field_simp
  obtain ⟨hlo, -⟩ := h
  rw [if_pos ⟨hm, hq'⟩] at hlo
  rw [hhalf]
  simp only [NearestEven, Nat.cast_mul, Nat.cast_ofNat]
  refine ⟨?_, .inl ?_⟩
  · rcases hlo with hlo | ⟨-, hlo⟩
    · left
      have := (lt_div_iff₀ hq).mpr hlo
      linarith
    · right
      refine ⟨by omega, ?_⟩
      rw [hlo, mul_div_assoc, div_self hq.ne']
      ring
  · have := (div_lt_iff₀ hq).mpr hr
    linarith

/-- What rounds to a finite value lies below the top of its binade. -/
theorem lt_two_zpow (hc : Canonical m q) (h : RoundsTo m q r) : r < 2 ^ (q + 53) := by
  have hm : (m : ℚ) + 1 / 2 < 2 ^ 53 := by
    have : (m : ℚ) + 1 ≤ 2 ^ 53 := by exact_mod_cast hc.lt
    linarith
  calc r ≤ ((m : ℚ) + 1 / 2) * 2 ^ q := h.le_upper
    _ < 2 ^ 53 * 2 ^ q := by gcongr
    _ = 2 ^ (q + 53) := by rw [two_pow_mul_two_zpow]; congr 1; omega

/-- What rounds to a finite value lies above half a unit of its last place. -/
theorem two_zpow_lt (hc : Canonical m q) (h : RoundsTo m q r) : 2 ^ (q - 1) < r := by
  have hq := two_zpow_pos q
  have hhalf : (2 : ℚ) ^ (q - 1) = 1 / 2 * 2 ^ q := by
    rw [zpow_sub_one₀ two_ne_zero]
    ring
  rw [hhalf]
  by_cases hone : m = 1
  · -- the least mantissa is odd: its lower end is excluded
    obtain ⟨hlo, -⟩ := h
    rw [if_neg (by omega)] at hlo
    subst hone
    rcases hlo with hlo | ⟨hev, -⟩
    · norm_num at hlo
      linarith
    · omega
  · have hm : (2 : ℚ) ≤ m := by exact_mod_cast (show 2 ≤ m by have := hc.pos; omega)
    have := h.lower_le
    nlinarith

end RoundsTo

/-! ## The exponent the model rounds at -/

section Binade

variable {acc : Accuracy} {M : Nat} {v : ℚ}

/-- A described value lies below `2 ^ totalExponent M E`. -/
theorem value_lt_two_zpow (h : acc.Describes M v) (E : Int) :
    v * 2 ^ E < 2 ^ totalExponent M E := by
  have hM : (M : ℚ) + 1 ≤ 2 ^ (M.log2 + 1) := by exact_mod_cast Nat.lt_log2_self
  calc v * 2 ^ E < (M + 1) * 2 ^ E := by gcongr; exact h.lt_succ
    _ ≤ 2 ^ (M.log2 + 1) * 2 ^ E := by gcongr
    _ = 2 ^ totalExponent M E := by
      rw [two_pow_mul_two_zpow, totalExponent]
      push_cast
      rfl

/-- A value described next to a nonzero `M` lies at or above `2 ^ (totalExponent M E - 1)`. -/
theorem two_zpow_le_value (h : acc.Describes M v) (hM : M ≠ 0) (E : Int) :
    2 ^ (totalExponent M E - 1) ≤ v * 2 ^ E := by
  have hlo : (2 : ℚ) ^ M.log2 ≤ M := by exact_mod_cast Nat.log2_self_le hM
  calc (2 : ℚ) ^ (totalExponent M E - 1) = 2 ^ M.log2 * 2 ^ E := by
        rw [two_pow_mul_two_zpow, totalExponent]
        congr 1
        omega
    _ ≤ M * 2 ^ E := by gcongr
    _ ≤ v * 2 ^ E := by gcongr; exact h.le

/-- A value below `2 ^ (p + 53)` is rounded at or below the exponent `p`, unless at the least
exponent. -/
theorem targetExponent_le (h : acc.Describes M v) {E : Int}
    (hbits : E ≤ Format.binary64.targetExponent (totalExponent M E)) {p : Int}
    (hr : v * 2 ^ E < 2 ^ (p + 53)) :
    Format.binary64.targetExponent (totalExponent M E) ≤ max p (-1074) := by
  rw [targetExponent_binary64] at hbits ⊢
  by_cases hM : M = 0
  · -- a value under one unit at `E` is rounded at `E`, so only at the least exponent
    subst hM
    simp only [totalExponent, Nat.log2_zero] at hbits ⊢
    omega
  · have := lt_of_two_zpow_lt ((two_zpow_le_value h hM E).trans_lt hr)
    omega

/-- A value at or above `2 ^ (p + 52)` is rounded at or above the exponent `p`. -/
theorem le_targetExponent (h : acc.Describes M v) {E p : Int}
    (hr : 2 ^ (p + 52) ≤ v * 2 ^ E) :
    p ≤ Format.binary64.targetExponent (totalExponent M E) := by
  have := lt_of_two_zpow_lt (hr.trans_lt (value_lt_two_zpow h E))
  rw [targetExponent_binary64]
  omega

end Binade

/-! ## Rounding a described value -/

/-- A canonical value is already at its target exponent. -/
theorem shiftToTargetExponent_canonical {m : Nat} {q : Int} (hc : Canonical m q) :
    shiftToTargetExponent Format.binary64 m q .exact = (⟨m, false, false⟩, q) := by
  have hlog : m.log2 < 53 := (Nat.log2_lt hc.pos.ne').mpr hc.lt
  have htarget : Format.binary64.targetExponent (totalExponent m q) = q := by
    rw [targetExponent_binary64, totalExponent]
    rcases hc.normal_or_least with hnormal | hleast
    · rw [log2_of_normal hnormal hc.lt]
      have := hc.exp_ge
      omega
    · omega
  simp only [shiftToTargetExponent, shiftToExponent, htarget, sub_self, Int.toNat_zero]
  exact Prod.ext rfl (by simp)

/-- A mantissa that rounding carried up to `2 ^ 53` is shifted once more, exactly. -/
theorem shiftToTargetExponent_carry {q : Int} (hq : -1074 < q) :
    shiftToTargetExponent Format.binary64 (2 ^ 53) (q - 1) .exact =
      (⟨2 ^ 52, false, false⟩, q) := by
  have htarget : Format.binary64.targetExponent (totalExponent (2 ^ 53) (q - 1)) = q := by
    rw [targetExponent_binary64, totalExponent, Nat.log2_two_pow]
    omega
  simp only [shiftToTargetExponent, shiftToExponent, htarget]
  rw [show (q - (q - 1)).toNat = 1 by omega]
  refine Prod.ext ?_ ?_
  · rfl
  · push_cast
    ring

/-- The result of `roundWithAccuracy` from its two shifts and the rounding between them. -/
theorem roundWithAccuracy_of_shifts {spec : Format} {s : Sign} {M : Nat} {E : Int}
    {acc : Accuracy} {em : ExtendedMantissa} {T : Int} {m : Nat} {q : Int}
    (hfirst : shiftToTargetExponent spec M E acc = (em, T))
    (hsecond : shiftToTargetExponent spec em.roundedMantissa T .exact = (⟨m, false, false⟩, q))
    (hm : 0 < m) :
    roundWithAccuracy spec s M E acc = .finite s m q hm := by
  rw [roundWithAccuracy, hfirst]
  dsimp only
  rw [hsecond]
  dsimp only
  rw [dif_neg hm.ne']

/-- Rounding a value cut at or below the format's last place gives the canonical value whose
interval holds it. The target exponent is read off the value: the canonical exponent, or one
below it for a value just under the bottom of a binade, where rounding carries into a new bit
and the second shift takes it back. -/
theorem roundWithAccuracy_eq_of_roundsTo {s : Sign} {M : Nat} {E : Int} {acc : Accuracy}
    {v : ℚ} (hacc : acc.Describes M v)
    (hbits : E ≤ Format.binary64.targetExponent (totalExponent M E))
    {m : Nat} {q : Int} (hc : Canonical m q) (hr : RoundsTo m q (v * 2 ^ E)) :
    roundWithAccuracy Format.binary64 s M E acc = .finite s m q hc.pos := by
  set T := Format.binary64.targetExponent (totalExponent M E) with hT
  have hq := two_zpow_pos q
  have hfirst : shiftToTargetExponent Format.binary64 M E acc =
      (ExtendedMantissa.ofMantissaAndAccuracy M acc >>> (T - E).toNat, T) := by
    simp only [shiftToTargetExponent, shiftToExponent, ← hT]
    congr 1
    omega
  -- the value in units of the last place at the target exponent
  have hdesc : (ExtendedMantissa.ofMantissaAndAccuracy M acc >>> (T - E).toNat).Describes
      (v * 2 ^ E / 2 ^ T) := by
    have hstart : (ExtendedMantissa.ofMantissaAndAccuracy M acc).Describes v := by
      simpa [ExtendedMantissa.Describes] using hacc
    have hscale : v * 2 ^ E / 2 ^ T = v / 2 ^ (T - E).toNat := by
      rw [← zpow_natCast, Int.toNat_of_nonneg (by omega), zpow_sub₀ two_ne_zero]
      field_simp
    rw [hscale]
    exact hstart.shiftRight _
  by_cases hlow : m = 2 ^ 52 ∧ -1074 < q ∧ v * 2 ^ E < m * 2 ^ q
  · -- just under the bottom of a binade: rounded one place finer, then carried
    obtain ⟨hm, hq', hx⟩ := hlow
    have hTq : T = q - 1 := by
      have hle : T ≤ max (q - 1) (-1074) := by
        refine targetExponent_le hacc hbits (hx.trans_eq ?_)
        rw [hm, Nat.cast_pow, Nat.cast_ofNat, two_pow_mul_two_zpow]
        congr 1
        omega
      have hge : q - 1 ≤ T := by
        refine le_targetExponent hacc (le_trans ?_ (hr.narrow_lower_le hm hq'))
        rw [show q - 1 + 52 = ((51 : Nat) : Int) + q by omega, ← two_pow_mul_two_zpow, hm]
        gcongr
        norm_num
      omega
    have hround : (ExtendedMantissa.ofMantissaAndAccuracy M acc >>> (T - E).toNat).roundedMantissa =
        2 ^ 53 := by
      have hcarry := hr.nearestEven_carry ⟨hm, hq', hx⟩
      rw [← hTq] at hcarry
      rw [ExtendedMantissa.roundedMantissa, Accuracy.roundToNearestEven_eq hdesc hcarry, hm]
      norm_num
    apply roundWithAccuracy_of_shifts hfirst
    rw [hround, hTq]
    subst hm
    exact shiftToTargetExponent_carry hq'
  · -- otherwise rounded at the canonical exponent, with no carry out of 53 bits
    have hTq : T = q := by
      have hle : T ≤ max q (-1074) := targetExponent_le hacc hbits (hr.lt_two_zpow hc)
      have hge : q ≤ T := by
        by_cases hleast : q = -1074
        · rw [hleast, hT, targetExponent_binary64]
          exact le_max_right _ _
        have hnormal : 2 ^ 52 ≤ m := hc.normal_or_least.resolve_right hleast
        apply le_targetExponent hacc
        rw [show q + 52 = ((52 : Nat) : Int) + q by omega, ← two_pow_mul_two_zpow]
        rcases hnormal.lt_or_eq with hgt | heq
        · have hm1 : (2 : ℚ) ^ 52 + 1 ≤ m := by exact_mod_cast hgt
          calc (2 : ℚ) ^ 52 * 2 ^ q ≤ ((m : ℚ) - 1 / 2) * 2 ^ q := by gcongr; linarith
            _ ≤ v * 2 ^ E := hr.lower_le
        · -- at the bottom of a binade the value is at least the bottom itself
          have hnot : ¬v * 2 ^ E < m * 2 ^ q :=
            fun h => hlow ⟨heq.symm, lt_of_le_of_ne hc.exp_ge (Ne.symm hleast), h⟩
          rw [← heq] at hnot
          push_cast at hnot
          exact not_lt.mp hnot
      have := hc.exp_ge
      omega
    have hround : (ExtendedMantissa.ofMantissaAndAccuracy M acc >>> (T - E).toNat).roundedMantissa =
        m := by
      have hnear := hr.nearestEven hlow
      rw [← hTq] at hnear
      exact Accuracy.roundToNearestEven_eq hdesc hnear
    apply roundWithAccuracy_of_shifts hfirst
    rw [hround, hTq]
    exact shiftToTargetExponent_canonical hc

/-- A mantissa of at least 53 bits is cut at or below the format's last place. -/
theorem le_targetExponent_of_wide {M : Nat} (hM : 2 ^ 52 ≤ M) (E : Int) :
    E ≤ Format.binary64.targetExponent (totalExponent M E) := by
  have : 52 ≤ M.log2 := (Nat.le_log2 (by omega)).mpr hM
  rw [targetExponent_binary64, totalExponent]
  omega

/-! ## Products, quotients and scaled decimals -/

/-- A product of finite values with enough bits between them is rounded once. -/
theorem mul_eq_of_roundsTo {s₁ s₂ : Sign} {m₁ m₂ : Nat} {e₁ e₂ : Int} (h₁ : 0 < m₁) (h₂ : 0 < m₂)
    (hwide : 2 ^ 52 ≤ m₁ * m₂) {m : Nat} {q : Int} (hc : Canonical m q)
    (hr : RoundsTo m q ((m₁ : ℚ) * 2 ^ e₁ * ((m₂ : ℚ) * 2 ^ e₂))) :
    mul Format.binary64 (.finite s₁ m₁ e₁ h₁) (.finite s₂ m₂ e₂ h₂) =
      .finite (s₁ * s₂) m q hc.pos := by
  have hv : ((m₁ * m₂ : ℕ) : ℚ) * 2 ^ (e₁ + e₂) = (m₁ : ℚ) * 2 ^ e₁ * ((m₂ : ℚ) * 2 ^ e₂) := by
    rw [zpow_add₀ two_ne_zero]
    push_cast
    ring
  rw [← hv] at hr
  exact roundWithAccuracy_eq_of_roundsTo
    (show Accuracy.exact.Describes (m₁ * m₂) ((m₁ * m₂ : ℕ) : ℚ) from rfl)
    (le_targetExponent_of_wide hwide _) hc hr

/-- A remainder's size, as an accuracy, describes the exact quotient next to the truncated
one. -/
theorem accuracyOfFraction_describes (N : Nat) {D : Nat} (hD : 0 < D) :
    (accuracyOfFraction (N % D) D).Describes (N / D) ((N : ℚ) / D) := by
  have hD' : (0 : ℚ) < D := by exact_mod_cast hD
  have hsplit : (N : ℚ) / D = (N / D : ℕ) + ((N % D : ℕ) : ℚ) / D := by
    have hN : (N : ℚ) = D * (N / D : ℕ) + (N % D : ℕ) := by
      exact_mod_cast (Nat.div_add_mod N D).symm
    rw [hN]
    field_simp
  have hrem : ((N % D : ℕ) : ℚ) < D := by exact_mod_cast Nat.mod_lt N hD
  unfold accuracyOfFraction
  split
  · rename_i h0
    simp only [Accuracy.Describes]
    rw [hsplit, h0]
    simp
  · rename_i h0
    have hpos : (0 : ℚ) < ((N % D : ℕ) : ℚ) / D :=
      div_pos (by exact_mod_cast Nat.pos_of_ne_zero h0) hD'
    have hlt : ((N % D : ℕ) : ℚ) / D < 1 := (div_lt_one hD').mpr hrem
    refine ⟨by rw [hsplit]; linarith, by rw [hsplit]; linarith, ?_⟩
    rw [hsplit]
    -- the remainder against half the divisor, scaled by `2 * D`
    rcases lt_trichotomy (2 * (N % D)) D with h | h | h
    · have h' : ((2 * (N % D) : ℕ) : ℚ) < D := by exact_mod_cast h
      have : ((N % D : ℕ) : ℚ) / D < 1 / 2 := by
        rw [div_lt_iff₀ hD']
        push_cast at h'
        linarith
      rw [compare_lt_iff_lt.mpr h, compare_lt_iff_lt]
      linarith
    · have h' : ((2 * (N % D) : ℕ) : ℚ) = D := by exact_mod_cast h
      have : ((N % D : ℕ) : ℚ) / D = 1 / 2 := by
        rw [div_eq_iff hD'.ne']
        push_cast at h'
        linarith
      rw [compare_eq_iff_eq.mpr h, compare_eq_iff_eq]
      linarith
    · have h' : (D : ℚ) < ((2 * (N % D) : ℕ) : ℚ) := by exact_mod_cast h
      have : 1 / 2 < ((N % D : ℕ) : ℚ) / D := by
        rw [lt_div_iff₀ hD']
        push_cast at h'
        linarith
      rw [compare_gt_iff_gt.mpr h, compare_gt_iff_gt]
      linarith

/-- The model's cut of a quotient of finite values: the accuracy describes the exact quotient,
and the cut keeps at least the format's precision. The cut's exponent is estimated from the
operands' leading bits, never above the quotient's own. -/
theorem divCore_describes {m₁ m₂ : Nat} (h₁ : 0 < m₁) (h₂ : 0 < m₂) {e₁ e₂ : Int} {Q : Nat}
    {T : Int} {acc : Accuracy} (h : divCore Format.binary64 m₁ e₁ m₂ e₂ = (Q, T, acc)) :
    acc.Describes Q ((m₁ : ℚ) * 2 ^ e₁ / ((m₂ : ℚ) * 2 ^ e₂) / 2 ^ T) ∧
      T ≤ Format.binary64.targetExponent (totalExponent Q T) := by
  simp only [divCore, Prod.mk.injEq] at h
  obtain ⟨hQ, hT, hacc⟩ := h
  rw [hT] at hQ hacc
  subst hQ hacc
  rw [targetExponent_binary64, totalExponent, totalExponent] at hT
  have hsh : ((e₁ - e₂ - T).toNat : Int) = e₁ - e₂ - T := Int.toNat_of_nonneg (by omega)
  refine ⟨?_, ?_⟩
  · have hvalue : (m₁ : ℚ) * 2 ^ e₁ / ((m₂ : ℚ) * 2 ^ e₂) / 2 ^ T =
        ((m₁ <<< (e₁ - e₂ - T).toNat : ℕ) : ℚ) / m₂ := by
      rw [Nat.shiftLeft_eq]
      push_cast
      rw [← zpow_natCast, hsh, zpow_sub₀ two_ne_zero, zpow_sub₀ two_ne_zero]
      field_simp
    rw [hvalue]
    exact accuracyOfFraction_describes _ h₂
  · by_cases hleast : T ≤ -1074
    · rw [targetExponent_binary64]
      omega
    -- above the least exponent the quotient keeps 53 bits
    apply le_targetExponent_of_wide
    rw [Nat.le_div_iff_mul_le h₂, Nat.shiftLeft_eq]
    have hm₂ : m₂ < 2 ^ (m₂.log2 + 1) := Nat.lt_log2_self
    have hm₁ : 2 ^ m₁.log2 ≤ m₁ := Nat.log2_self_le h₁.ne'
    calc 2 ^ 52 * m₂ ≤ 2 ^ 52 * 2 ^ (m₂.log2 + 1) := by gcongr
      _ ≤ 2 ^ m₁.log2 * 2 ^ (e₁ - e₂ - T).toNat := by
        rw [← Nat.pow_add, ← Nat.pow_add]
        exact Nat.pow_le_pow_right (by decide) (by omega)
      _ ≤ m₁ * 2 ^ (e₁ - e₂ - T).toNat := by gcongr

/-- A quotient of finite values is rounded once. -/
theorem div_eq_of_roundsTo {s₁ s₂ : Sign} {m₁ m₂ : Nat} {e₁ e₂ : Int} (h₁ : 0 < m₁)
    (h₂ : 0 < m₂) {m : Nat} {q : Int} (hc : Canonical m q)
    (hr : RoundsTo m q ((m₁ : ℚ) * 2 ^ e₁ / ((m₂ : ℚ) * 2 ^ e₂))) :
    div Format.binary64 (.finite s₁ m₁ e₁ h₁) (.finite s₂ m₂ e₂ h₂) =
      .finite (s₁ / s₂) m q hc.pos := by
  obtain ⟨⟨Q, T, acc⟩, hcore⟩ : ∃ p, divCore Format.binary64 m₁ e₁ m₂ e₂ = p := ⟨_, rfl⟩
  obtain ⟨hacc, hbits⟩ := divCore_describes h₁ h₂ hcore
  rw [← div_mul_cancel₀ ((m₁ : ℚ) * 2 ^ e₁ / ((m₂ : ℚ) * 2 ^ e₂)) (two_zpow_pos T).ne'] at hr
  simp only [div, hcore]
  exact roundWithAccuracy_eq_of_roundsTo hacc hbits hc hr

/-- A decimal `M * 10 ^ e` is rounded once by the model: by a product for a nonnegative
exponent, by a quotient for a negative one; the guards against huge powers of ten never fire
on a value that rounds to a finite one. -/
theorem ofScientific_eq_of_roundsTo {M : Nat} (hM : M ≠ 0) {e : Int} {m : Nat} {q : Int}
    (hc : Canonical m q) (hr : RoundsTo m q ((M : ℚ) * 10 ^ e)) :
    ofScientific Format.binary64 M e = .finite .positive m q hc.pos := by
  have hlo := hr.two_zpow_lt hc
  have hhi := hr.lt_two_zpow hc
  have hq := hc.exp_ge
  have hq' := hc.exp_le
  have hM' : (1 : ℚ) ≤ M := by exact_mod_cast Nat.one_le_iff_ne_zero.mpr hM
  unfold ofScientific
  rw [dif_neg hM]
  split_ifs with hbig hsmall hnonneg
  · -- a value of at least `10 ^ 2049` rounds to no finite value
    exfalso
    norm_num at hbig
    have hpow : (2 : ℚ) ^ e ≤ 10 ^ e := by
      rw [← Int.toNat_of_nonneg (show 0 ≤ e by omega), zpow_natCast, zpow_natCast]
      exact pow_le_pow_left₀ (by norm_num) (by norm_num) _
    have htop : (2 : ℚ) ^ (q + 53) ≤ 2 ^ e := zpow_le_zpow_right₀ (by norm_num) (by omega)
    nlinarith [two_zpow_pos e]
  · -- a value below `2 ^ -2047` rounds to no finite value
    exfalso
    norm_num at hsmall
    have hMup : (M : ℚ) < 2 ^ ((M.log2 + 1 : ℕ) : ℤ) := by
      rw [zpow_natCast]
      exact_mod_cast Nat.lt_log2_self
    have hten : (10 : ℚ) ^ e ≤ 2 ^ e := by
      obtain ⟨n, rfl⟩ : ∃ n : ℕ, e = -(n : ℤ) := ⟨(-e).toNat, by omega⟩
      rw [zpow_neg, zpow_neg, zpow_natCast, zpow_natCast]
      exact inv_anti₀ (by positivity) (pow_le_pow_left₀ (by norm_num) (by norm_num) _)
    have hvalue : (M : ℚ) * 10 ^ e < 2 ^ (((M.log2 + 1 : ℕ) : ℤ) + e) := by
      rw [zpow_add₀ two_ne_zero]
      calc (M : ℚ) * 10 ^ e ≤ M * 2 ^ e := by gcongr
        _ < 2 ^ ((M.log2 + 1 : ℕ) : ℤ) * 2 ^ e := by gcongr
    have hbottom : (2 : ℚ) ^ (((M.log2 + 1 : ℕ) : ℤ) + e) ≤ 2 ^ (q - 1) :=
      zpow_le_zpow_right₀ (by norm_num) (by push_cast; omega)
    linarith
  · -- a product with `10 ^ e`, the decimal's digits widened by 53 bits
    obtain ⟨n, rfl⟩ : ∃ n : ℕ, e = n := ⟨e.toNat, (Int.toNat_of_nonneg hnonneg).symm⟩
    have hten : 1 ≤ 10 ^ n := Nat.one_le_pow _ _ (by decide)
    refine mul_eq_of_roundsTo _ _ ?_ hc ?_
    · have h53 : Format.binary64.mantissaBits = 53 := rfl
      rw [Nat.shiftLeft_eq, h53, Int.toNat_natCast]
      calc 2 ^ 52 ≤ 1 * 2 ^ 53 * 1 := by norm_num
        _ ≤ M * 2 ^ 53 * 10 ^ n := by gcongr; omega
    · have hv : ((M <<< Format.binary64.mantissaBits : ℕ) : ℚ) *
          2 ^ (-(Format.binary64.mantissaBits : ℤ)) *
          (((10 ^ (n : ℤ).toNat : ℕ) : ℚ) * 2 ^ (0 : ℤ)) = (M : ℚ) * 10 ^ (n : ℤ) := by
        rw [Nat.shiftLeft_eq, Int.toNat_natCast, zpow_neg, zpow_natCast, zpow_natCast]
        push_cast
        field_simp
      rwa [hv]
  · -- a quotient by `10 ^ -e`
    obtain ⟨n, rfl⟩ : ∃ n : ℕ, e = -(n : ℤ) := ⟨(-e).toNat, by omega⟩
    refine div_eq_of_roundsTo _ _ hc ?_
    have hv : (M : ℚ) * 2 ^ (0 : ℤ) / (((10 ^ (-(-(n : ℤ))).toNat : ℕ) : ℚ) * 2 ^ (0 : ℤ)) =
        (M : ℚ) * 10 ^ (-(n : ℤ)) := by
      rw [neg_neg, Int.toNat_natCast, zpow_neg, zpow_natCast]
      push_cast
      field_simp
    rwa [hv]

/-! ## Packing -/

/-- Packing a canonical value and unpacking the bits gives it back. -/
theorem unpack_pack_canonical (s : Sign) {m : Nat} {q : Int} (hc : Canonical m q) :
    unpack Format.binary64 (pack Format.binary64 (.finite s m q hc.pos)) =
      .finite s m q hc.pos := by
  by_cases hnormal : 2 ^ 52 ≤ m
  · exact unpack_pack_normal s hnormal hc.lt hc.exp_ge hc.exp_le
  -- a subnormal: zero exponent bits, and the mantissa as it is
  have hleast := hc.normal_or_least.resolve_left hnormal
  subst hleast
  have hlog : m.log2 < 52 := (Nat.log2_lt hc.pos.ne').mpr (by omega)
  simp only [pack]
  rw [if_neg (by decide), if_neg (by simp [Format.mantissaBits]; omega)]
  simp only [unpack, unpackMantissa_packComponents, unpackExponent_packComponents,
    unpackSign_packComponents, Sign.ofBitVec_toBitVec]
  have hmantissa : (BitVec.ofNat 52 m).toNat = m := by
    simp only [BitVec.toNat_ofNat]
    omega
  have hne : BitVec.ofNat 52 m ≠ 0#52 := by
    intro h
    have := congrArg BitVec.toNat h
    simp only [hmantissa, BitVec.toNat_zero] at this
    exact hc.pos.ne' this
  simp [hne, hmantissa, Format.exponentBias]

end Float.Model.UnpackedFloat

namespace RobotProgram

open Float.Model.UnpackedFloat

/-! ## Converting a decimal to a float -/

/-- `u` is `10 ^ e` exactly, with a 53-bit mantissa: a check that runs. -/
def IsPowerOfTen (e : Nat) : UnpackedFloat → Bool
  | .finite .positive P π _ => decide (2 ^ 52 ≤ P) && P * 2 ^ π.toNat == 10 ^ e * 2 ^ (-π).toNat
  | _ => false

theorem eq_finite_of_isPowerOfTen {e : Nat} {u : UnpackedFloat} (h : IsPowerOfTen e u = true) :
    ∃ P π hP, u = .finite .positive P π hP ∧ 2 ^ 52 ≤ P ∧ (P : ℚ) * 2 ^ π = 10 ^ e := by
  cases u with
  | finite s P π hP =>
    cases s with
    | positive =>
      simp only [IsPowerOfTen, Bool.and_eq_true, decide_eq_true_eq, beq_iff_eq] at h
      refine ⟨P, π, hP, rfl, h.1, ?_⟩
      have hcast : ((P * 2 ^ π.toNat : ℕ) : ℚ) = ((10 ^ e * 2 ^ (-π).toNat : ℕ) : ℚ) := by
        exact_mod_cast h.2
      push_cast at hcast
      have hπ : (2 : ℚ) ^ π = 2 ^ π.toNat / 2 ^ (-π).toNat := by
        rw [← zpow_natCast, ← zpow_natCast, ← zpow_sub₀ two_ne_zero]
        congr 1
        omega
      rw [hπ, ← mul_div_assoc, div_eq_iff (by positivity), hcast]
    | negative => simp [IsPowerOfTen] at h
  | _ => simp [IsPowerOfTen] at h

/-- Each power of ten in the conversion's table is exact. -/
theorem isPowerOfTen_table :
    ∀ e (he : e < Float.exactlyRepresentablePowersOfTen.size),
      IsPowerOfTen e (Float.exactlyRepresentablePowersOfTen[e]).toModel.unpack = true := by
  decide +kernel

theorem unpack_pack_model (u : UnpackedFloat) :
    (Float.Model.pack u).unpack = unpack Format.binary64 (pack Format.binary64 u) := by
  simp only [Float.Model.unpack, Float.Model.pack, UInt64.toBitVec_ofBitVec]

/-- The float a decimal converts to is the canonical value whose interval holds the decimal, on
either path of the conversion: exact factors for a short decimal with a small exponent, one
product or quotient rounded once; the model's own conversion otherwise. -/
theorem unpack_ofScientific_of_roundsTo {M : Nat} (hM : M ≠ 0) (neg : Bool) (e : Nat) {m : Nat}
    {q : Int} (hc : Canonical m q)
    (hr : RoundsTo m q ((M : ℚ) * 10 ^ (if neg then -(e : Int) else e))) :
    (Float.ofScientific M neg e).toModel.unpack = .finite .positive m q hc.pos := by
  rw [Float.ofScientific]
  split
  · rename_i hfast
    obtain ⟨P, π, hP, hten, hPw, hPv⟩ := eq_finite_of_isPowerOfTen
      (isPowerOfTen_table e (by simp [Float.exactlyRepresentablePowersOfTen]; omega))
    have hw := normal_widen hM hfast.1
    have hlog : M.log2 < 53 := (Nat.log2_lt hM).mpr hfast.1
    have hA : M.toUInt64.toFloat.toModel.unpack = .finite .positive (M * 2 ^ (52 - M.log2))
        (-(52 - M.log2 : Nat)) (by omega) := by
      rw [toModel_toFloat_nat hM hfast.1]
      exact Float.Model.unpack_pack_of_normal .positive hw.1 hw.2 (by omega) (by omega)
    have hAv : ((M * 2 ^ (52 - M.log2) : ℕ) : ℚ) * 2 ^ (-((52 - M.log2 : Nat) : ℤ)) = M := by
      push_cast
      rw [zpow_neg, zpow_natCast]
      field_simp
    dsimp only
    cases neg
    · -- one product of exact factors
      show (Float.Model.pack (mul Format.binary64 _ _)).unpack = _
      rw [unpack_pack_model, hA, hten, mul_eq_of_roundsTo _ _ ?_ hc ?_]
      · exact unpack_pack_canonical _ hc
      · calc 2 ^ 52 ≤ 1 * P := by omega
          _ ≤ M * 2 ^ (52 - M.log2) * P := by
            gcongr
            exact Nat.one_le_iff_ne_zero.mpr (by positivity)
      · rw [hAv, hPv]
        simpa using hr
    · -- one quotient of exact operands
      show (Float.Model.pack (div Format.binary64 _ _)).unpack = _
      rw [unpack_pack_model, hA, hten, div_eq_of_roundsTo _ _ hc ?_]
      · exact unpack_pack_canonical _ hc
      · rw [hAv, hPv]
        simpa [zpow_neg, div_eq_mul_inv] using hr
  · show (Float.Model.ofScientific M _).unpack = _
    rw [Float.Model.ofScientific, unpack_pack_model]
    have hexp :
        (if neg then Int.negOfNat e else Int.ofNat e) = (if neg then -(e : Int) else e) := by
      cases neg <;> simp [Int.negOfNat_eq]
    rw [hexp, ofScientific_eq_of_roundsTo hM hc hr]
    exact unpack_pack_canonical .positive hc

end RobotProgram
