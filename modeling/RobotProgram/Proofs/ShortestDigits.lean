import RobotProgram.Proofs.Rounding
/-!
# RobotProgram.Proofs.ShortestDigits

The decimal that a float's text shows rounds back to the float.

`DecimalFloat.ofFloat` reads the sign, the class and the digits off the bits of a float. Read
through the model's own unpacking (`DecimalFloat.ofFloat_eq`), a finite nonzero float is a
canonical `m * 2 ^ q` (`canonical_of_unpack`) and shows `Binary.shortest` of it. The exact
comparisons on naturals decide the rounding interval `RoundsTo` (`cmpScaled_eq`,
`readsBack_iff_roundsTo`), and what `shortest` returns passes them: a neighbour on a decimal
grid that the search checked, or the exact value, with trailing zeros dropped
(`readsBack_shortest`).

Main statement: `roundsTo_shortest`.
-/

open Float.Model Float.Model.UnpackedFloat

namespace RobotProgram

/-! ## The fields of a float's bits -/

section Fields

variable (b : UInt64)

/-- The exponent field, as the model unpacks it and as a mask of the bits. -/
theorem unpackExponent_toNat :
    (@unpackExponent Format.binary64 b.toBitVec).toNat = ((b >>> 52) &&& 0x7FF).toNat := by
  change (b.toNat >>> 52) % 2 ^ 11 = (b.toNat >>> 52) &&& (2 ^ 11 - 1)
  rw [Nat.and_two_pow_sub_one_eq_mod]

/-- The mantissa field, as the model unpacks it and as a mask of the bits. -/
theorem unpackMantissa_toNat :
    (@unpackMantissa Format.binary64 b.toBitVec).toNat = (b &&& 0xFFFFFFFFFFFFF).toNat := by
  change (b.toNat >>> 0) % 2 ^ 52 = b.toNat &&& (2 ^ 52 - 1)
  rw [Nat.shiftRight_zero, Nat.and_two_pow_sub_one_eq_mod]

/-- The sign the model unpacks is negative exactly when the top bit is set. -/
theorem unpackSign_eq_negative :
    (Sign.ofBitVec (@unpackSign Format.binary64 b.toBitVec) == .negative) = (b >>> 63 == 1) := by
  have hb := b.toNat_lt
  have hsign : (@unpackSign Format.binary64 b.toBitVec).toNat = b.toNat / 2 ^ 63 := by
    change (b.toNat >>> 63) % 2 ^ 1 = _
    rw [Nat.shiftRight_eq_div_pow]
    omega
  have htop : (b >>> 63 == 1) = decide (b.toNat / 2 ^ 63 = 1) := by
    rw [Bool.eq_iff_iff, beq_iff_eq, decide_eq_true_iff, ← UInt64.toNat_inj]
    simp [Nat.shiftRight_eq_div_pow]
  rw [htop, Sign.ofBitVec]
  split
  · rename_i hzero
    rw [hzero, BitVec.toNat_zero] at hsign
    show false = _
    simp
    omega
  · rename_i hzero
    have hne : (@unpackSign Format.binary64 b.toBitVec).toNat ≠ 0 := fun h =>
      hzero (BitVec.eq_of_toNat_eq h)
    have hlt := (@unpackSign Format.binary64 b.toBitVec).isLt
    show true = _
    simp
    omega

end Fields

/-- A normal mantissa: the stored bits below the implicit leading one. -/
theorem toNat_one_append (F : BitVec 52) : (1#1 ++ F).toNat = 2 ^ 52 + F.toNat := by
  change 2 ^ 52 ||| F.toNat = _
  rw [Nat.or_comm, Nat.or_two_pow_eq_add_of_lt F.isLt, Nat.add_comm]

/-- The exponent field with every bit set, which marks the infinities and not a number. -/
theorem toNat_exponent_allOnes : (-(BitVec.ofNat 11 1)).toNat = 2047 := by
  decide

/-- What the model unpacks from any bits, when finite, is canonical. -/
theorem canonical_of_unpack {b : BitVec Format.binary64.numBits} {s : Sign} {m : Nat} {q : Int}
    {hm : 0 < m} (h : unpack Format.binary64 b = .finite s m q hm) : Canonical m q := by
  have hE : (unpackExponent b).toNat < 2048 := (unpackExponent b).isLt
  have hF : (unpackMantissa b).toNat < 2 ^ 52 := (unpackMantissa b).isLt
  have hbias : Format.binary64.exponentBias = 1023 := rfl
  simp only [UnpackedFloat.unpack, ← BitVec.toNat_inj, toNat_exponent_allOnes, BitVec.toNat_zero, hbias] at h
  split at h
  · split at h <;> cases h
  rename_i hspecial
  split at h
  · split at h
    · cases h
    · -- a subnormal: a short mantissa at the least exponent
      cases h
      exact ⟨hm, by omega, by omega, by omega, .inr (by omega)⟩
  · -- a normal value: a 53-bit mantissa with its leading bit set
    rename_i hsub
    cases h
    rw [toNat_one_append]
    exact ⟨by omega, by omega, by omega, by omega, .inl (by omega)⟩

/-- The sign, the class and the digits read off a float's bits, in terms of the value the model
unpacks: the sign bit, not a number, an infinity, a zero with no digits, or the shortest digits
of `m * 2 ^ q`, whose gap below is narrow at the least mantissa of every binade but the
lowest. -/
theorem DecimalFloat.ofFloat_eq (x : Float) :
    DecimalFloat.ofFloat x =
      match x.toModel.unpack with
      | .notANumber => .nan
      | .infinity s => .infinite (s == .negative)
      | .zero s => .finite (s == .negative) ⟨0, 0⟩
      | .finite s m q _ =>
        .finite (s == .negative) (Decimal.Binary.shortest ⟨m, q, m == 2 ^ 52 && decide (-1074 < q)⟩) := by
  have he := unpackExponent_toNat x.toBits
  have hf := unpackMantissa_toNat x.toBits
  have hs := unpackSign_eq_negative x.toBits
  have hE := (@unpackExponent Format.binary64 x.toBits.toBitVec).isLt
  have hF := (@unpackMantissa Format.binary64 x.toBits.toBitVec).isLt
  have hbias : Format.binary64.exponentBias = 1023 := rfl
  rw [show x.toModel.unpack = unpack Format.binary64 x.toBits.toBitVec from rfl]
  simp only [DecimalFloat.ofFloat, Decimal.Binary.ofBits, UnpackedFloat.unpack, ← hs]
  simp only [beq_iff_eq, ← UInt64.toNat_inj, ← BitVec.toNat_inj, ← he, ← hf, UInt64.reduceToNat,
    toNat_exponent_allOnes, BitVec.toNat_zero, toNat_one_append]
  generalize Sign.ofBitVec (@unpackSign Format.binary64 x.toBits.toBitVec) = s
  generalize @unpackExponent Format.binary64 x.toBits.toBitVec = E at *
  by_cases hspecial : E.toNat = 2047
  · -- all exponent bits set: an infinity or not a number
    by_cases hF0 : (@unpackMantissa Format.binary64 x.toBits.toBitVec).toNat = 0 <;>
      simp [hspecial, hF0]
  by_cases hsub : E.toNat = 0
  · -- no exponent bits set: a zero or a subnormal
    by_cases hF0 : (@unpackMantissa Format.binary64 x.toBits.toBitVec).toNat = 0 <;>
      simp [hsub, hF0, hbias]
  · -- a normal value; the gap below is narrow at the least mantissa above the lowest binade
    simp [hspecial, hsub, hbias]
    congr 2
    rw [Bool.eq_iff_iff]
    simp only [Bool.and_eq_true, beq_iff_eq, decide_eq_true_eq]
    omega

/-! ## Exact comparisons -/

namespace Decimal

/-- The rational a decimal denotes. -/
def value (d : Decimal) : ℚ := d.digits * 10 ^ d.exp

/-- An integer power as the quotient of the powers of its two natural parts. -/
theorem zpow_eq_div_pow {b : ℚ} (hb : b ≠ 0) (i : Int) : b ^ i = b ^ i.toNat / b ^ (-i).toNat := by
  rw [← zpow_natCast, ← zpow_natCast, ← zpow_sub₀ hb]
  congr 1
  omega

/-- The comparison on naturals is the comparison of the two rationals. -/
theorem cmpScaled_eq (a : Nat) (i : Int) (n : Nat) (j : Int) :
    cmpScaled a i n j = compare ((a : ℚ) * 10 ^ i) ((n : ℚ) * 2 ^ j) := by
  -- both naturals are the rationals times `10 ^ -i * 2 ^ -j`
  have hc : (0 : ℚ) < 10 ^ (-i).toNat * 2 ^ (-j).toNat := by positivity
  have hleft : ((a * 10 ^ i.toNat * 2 ^ (-j).toNat : ℕ) : ℚ) =
      (a : ℚ) * 10 ^ i * (10 ^ (-i).toNat * 2 ^ (-j).toNat) := by
    rw [zpow_eq_div_pow (by norm_num)]
    field_simp
    push_cast
    ring
  have hright : ((n * 2 ^ j.toNat * 10 ^ (-i).toNat : ℕ) : ℚ) =
      (n : ℚ) * 2 ^ j * (10 ^ (-i).toNat * 2 ^ (-j).toNat) := by
    rw [zpow_eq_div_pow (by norm_num)]
    field_simp
    push_cast
    ring
  unfold cmpScaled
  rcases lt_trichotomy ((a : ℚ) * 10 ^ i) ((n : ℚ) * 2 ^ j) with h | h | h
  · have hlt : ((a * 10 ^ i.toNat * 2 ^ (-j).toNat : ℕ) : ℚ) <
        (n * 2 ^ j.toNat * 10 ^ (-i).toNat : ℕ) := by
      rw [hleft, hright]
      exact mul_lt_mul_of_pos_right h hc
    rw [compare_lt_iff_lt.mpr h, compare_lt_iff_lt]
    exact_mod_cast hlt
  · have heq : ((a * 10 ^ i.toNat * 2 ^ (-j).toNat : ℕ) : ℚ) =
        (n * 2 ^ j.toNat * 10 ^ (-i).toNat : ℕ) := by
      rw [hleft, hright, h]
    rw [compare_eq_iff_eq.mpr h, compare_eq_iff_eq]
    exact_mod_cast heq
  · have hgt : ((n * 2 ^ j.toNat * 10 ^ (-i).toNat : ℕ) : ℚ) <
        (a * 10 ^ i.toNat * 2 ^ (-j).toNat : ℕ) := by
      rw [hleft, hright]
      exact mul_lt_mul_of_pos_right h hc
    rw [compare_gt_iff_gt.mpr h, compare_gt_iff_gt]
    exact_mod_cast hgt

/-- Whether a decimal reads back depends on its value only. -/
theorem readsBack_congr (x : Binary) {d d' : Decimal} (h : d.value = d'.value) :
    x.readsBack d = x.readsBack d' := by
  have hv : (d.digits : ℚ) * 10 ^ d.exp = d'.digits * 10 ^ d'.exp := h
  simp only [Binary.readsBack, cmpScaled_eq, hv]

/-- A decimal reads back exactly when it lies in the rounding interval of the value, given
that the value knows where its gap below is narrow. -/
theorem readsBack_iff_roundsTo {x : Binary} (hm : 0 < x.m)
    (hnarrow : x.narrowBelow = true ↔ x.m = 2 ^ 52 ∧ -1074 < x.q) (d : Decimal) :
    x.readsBack d = true ↔ RoundsTo x.m x.q d.value := by
  -- the ends of the interval, counted in quarters of `2 ^ q`
  have hquarter : (2 : ℚ) ^ (x.q - 2) = 2 ^ x.q / 4 := by
    rw [zpow_sub₀ two_ne_zero]
    norm_num
  have hlo : ((if x.narrowBelow then 4 * x.m - 1 else 4 * x.m - 2 : ℕ) : ℚ) * 2 ^ (x.q - 2) =
      ((x.m : ℚ) - if x.m = 2 ^ 52 ∧ -1074 < x.q then 1 / 4 else 1 / 2) * 2 ^ x.q := by
    rw [hquarter]
    by_cases hn : x.narrowBelow = true
    · rw [if_pos hn, if_pos (hnarrow.mp hn), Nat.cast_sub (by omega)]
      push_cast
      ring
    · rw [if_neg hn, if_neg (mt hnarrow.mpr hn), Nat.cast_sub (by omega)]
      push_cast
      ring
  have hhi : ((4 * x.m + 2 : ℕ) : ℚ) * 2 ^ (x.q - 2) = ((x.m : ℚ) + 1 / 2) * 2 ^ x.q := by
    rw [hquarter]
    push_cast
    ring
  simp only [Binary.readsBack, cmpScaled_eq, hlo, hhi, RoundsTo, value, Bool.and_eq_true,
    Bool.or_eq_true, beq_iff_eq, compare_gt_iff_gt, compare_eq_iff_eq, compare_lt_iff_lt]

/-! ## The shortest digits -/

/-- Dropping trailing zeros keeps the value. -/
theorem value_strip (a : Nat) (e : Int) : (strip a e).value = (⟨a, e⟩ : Decimal).value := by
  obtain ⟨hle, hval⟩ := strip_value a e
  conv_rhs => rw [value, ← hval]
  rw [value]
  push_cast
  rw [mul_assoc, ← zpow_natCast, ← zpow_add₀ (by norm_num)]
  congr 2
  omega

/-- The exact decimal of `m * 2 ^ q`: `m * 2 ^ q` digits, or `m * 5 ^ -q` tenths to the `-q`. -/
theorem value_exact (x : Binary) : x.exact.value = x.m * 2 ^ x.q := by
  unfold Binary.exact value
  split
  · rename_i hq
    push_cast
    rw [← zpow_natCast, Int.toNat_of_nonneg hq]
    simp
  · rename_i hq
    push_cast
    have h10 : (10 : ℚ) ^ x.q = 2 ^ x.q * 5 ^ x.q := by
      rw [← mul_zpow]
      norm_num
    rw [← zpow_natCast, show (((-x.q).toNat : ℕ) : ℤ) = -x.q by omega, h10, zpow_neg]
    field_simp

end Decimal

/-- A nonzero value lies inside its own interval. -/
theorem RoundsTo.self (m : Nat) (q : Int) : RoundsTo m q (m * 2 ^ q) := by
  have hq := two_zpow_pos q
  have hbelow : (0 : ℚ) < if m = 2 ^ 52 ∧ -1074 < q then 1 / 4 else 1 / 2 := by
    split <;> norm_num
  refine ⟨.inl ?_, .inl ?_⟩
  · exact mul_lt_mul_of_pos_right (by linarith) hq
  · exact mul_lt_mul_of_pos_right (by linarith) hq

namespace Decimal

/-- What the selection returns reads back: a grid neighbour the search accepted, or the exact
value, either with its trailing zeros dropped. -/
theorem readsBack_shortest {x : Binary} (hm : 0 < x.m)
    (hnarrow : x.narrowBelow = true ↔ x.m = 2 ^ 52 ∧ -1074 < x.q) :
    x.readsBack x.shortest = true := by
  unfold Binary.shortest
  dsimp only
  split
  · rename_i d hd
    obtain ⟨n, -, hn⟩ := List.exists_of_findSome?_eq_some hd
    rw [readsBack_congr x (value_strip _ _)]
    exact readsBack_onGrid hn
  · rw [readsBack_congr x (value_strip _ _), readsBack_iff_roundsTo hm hnarrow]
    show RoundsTo x.m x.q x.exact.value
    rw [value_exact]
    exact RoundsTo.self x.m x.q

end Decimal

/-- The shortest digits of a nonzero `m * 2 ^ q` round back to it. -/
theorem roundsTo_shortest {m : Nat} (hm : 0 < m) (q : Int) :
    RoundsTo m q (Decimal.Binary.shortest ⟨m, q, m == 2 ^ 52 && decide (-1074 < q)⟩).value := by
  let x : Decimal.Binary := ⟨m, q, m == 2 ^ 52 && decide (-1074 < q)⟩
  have hx : 0 < x.m := hm
  have hnarrow : x.narrowBelow = true ↔ x.m = 2 ^ 52 ∧ -1074 < x.q := by
    simp [x]
  exact (Decimal.readsBack_iff_roundsTo hx hnarrow _).mp (Decimal.readsBack_shortest hx hnarrow)

end RobotProgram
