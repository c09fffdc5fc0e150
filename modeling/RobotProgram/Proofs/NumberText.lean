import Mathlib
import RobotProgram.Motion.Pose.Reading
/-!
# RobotProgram.Proofs.NumberText

Facts about number texts that reading a literal back relies on.

* The binary64 model keeps integers of at most 53 bits exactly: converting one and scaling it
  by `10 ^ 0` lands on a normal value whose mantissa is the integer shifted left, and
  `integerValue?` reads the integer back off it.
* So the text of an integer reads as a float that is exactly that integer
  (`integerValue?_readFloat?`), and the text of a configuration quadrant reads back as the same
  quadrant (`quadrant?_readFloat?`).
* A number is written with digits, the point, signs and the exponent mark, or as a special
  name (`NumeralText.render`), and no number text is empty or opens with a quote
  (`readFloat?_cons`).
-/

open Float.Model

/-! ## Exact conversions in the binary64 model -/

namespace Float.Model.UnpackedFloat

variable {m : Nat} {e : Int}

/-- Shifting out `n` zero bits leaves no round or sticky bit. -/
theorem shiftRight_mul_two_pow (m n : Nat) :
    (⟨m * 2 ^ n, false, false⟩ : ExtendedMantissa) >>> n = ⟨m, false, false⟩ := by
  induction n generalizing m with
  | zero => simp; rfl
  | succ n ih =>
    have hm : m * 2 ^ (n + 1) = (m * 2) * 2 ^ n := by rw [Nat.pow_succ', Nat.mul_assoc]
    show ExtendedMantissa.shiftRightOne
      ((⟨m * 2 ^ (n + 1), false, false⟩ : ExtendedMantissa) >>> n) = _
    rw [hm, ih]
    simp [ExtendedMantissa.shiftRightOne]

theorem log2_mul_two_pow (hm : m ≠ 0) : ∀ n : Nat, (m * 2 ^ n).log2 = m.log2 + n
  | 0 => by simp
  | n + 1 => by
    have hpos : m * 2 ^ n ≠ 0 := Nat.mul_ne_zero hm (Nat.pos_iff_ne_zero.mp (Nat.two_pow_pos n))
    rw [Nat.pow_succ', Nat.mul_left_comm, Nat.log2_two_mul hpos, log2_mul_two_pow hm n]
    omega

/-- A normal mantissa has exactly 53 bits. -/
theorem log2_of_normal (hlo : 2 ^ 52 ≤ m) (hhi : m < 2 ^ 53) : m.log2 = 52 :=
  (Nat.log2_eq_iff (by omega)).mpr ⟨hlo, hhi⟩

/-- A normal value given with `n` extra zero bits is already on its target exponent once they
are shifted out. -/
theorem shiftToTargetExponent_mul_two_pow (hlo : 2 ^ 52 ≤ m) (hhi : m < 2 ^ 53)
    (he : -1074 ≤ e) (n : Nat) :
    shiftToTargetExponent Format.binary64 (m * 2 ^ n) (e - n) .exact =
      (⟨m, false, false⟩, e) := by
  have htarget : Format.binary64.targetExponent (totalExponent (m * 2 ^ n) (e - n)) = e := by
    simp only [Format.targetExponent, totalExponent, log2_mul_two_pow (by omega : m ≠ 0),
      log2_of_normal hlo hhi, Format.mantissaBits, Format.minExponent]
    omega
  simp only [shiftToTargetExponent, shiftToExponent, htarget]
  rw [show (e - (e - n)).toNat = n by omega]
  simp [ExtendedMantissa.ofMantissaAndAccuracy, shiftRight_mul_two_pow]

/-- Rounding a normal value given with `n` extra zero bits gives the value back. -/
theorem roundWithAccuracy_mul_two_pow (s : Sign) (hlo : 2 ^ 52 ≤ m) (hhi : m < 2 ^ 53)
    (he : -1074 ≤ e) (n : Nat) :
    roundWithAccuracy Format.binary64 s (m * 2 ^ n) (e - n) .exact =
      .finite s m e (by omega) := by
  have hsecond : shiftToTargetExponent Format.binary64 m e .exact = (⟨m, false, false⟩, e) := by
    simpa using shiftToTargetExponent_mul_two_pow hlo hhi he 0
  rw [roundWithAccuracy, shiftToTargetExponent_mul_two_pow hlo hhi he n]
  simp [ExtendedMantissa.roundedMantissa, ExtendedMantissa.accuracy,
    Accuracy.roundToNearestEven, hsecond, show m ≠ 0 by omega]

/-- A nonzero natural number of at most 53 bits, shifted left to 53 bits, is a normal
mantissa. -/
theorem normal_widen {k : Nat} (hk : k ≠ 0) (hk' : k < 2 ^ 53) :
    2 ^ 52 ≤ k * 2 ^ (52 - k.log2) ∧ k * 2 ^ (52 - k.log2) < 2 ^ 53 := by
  have hlog : k.log2 < 53 := (Nat.log2_lt hk).mpr hk'
  have hlo := Nat.mul_le_mul_right (2 ^ (52 - k.log2)) (Nat.log2_self_le hk)
  have hhi := Nat.mul_lt_mul_of_pos_right (Nat.lt_log2_self (n := k))
    (Nat.two_pow_pos (52 - k.log2))
  rw [← Nat.pow_add, show k.log2 + (52 - k.log2) = 52 by omega] at hlo
  rw [← Nat.pow_add, show k.log2 + 1 + (52 - k.log2) = 53 by omega] at hhi
  exact ⟨hlo, hhi⟩

/-- A natural number of at most 53 bits rounds to itself, its mantissa widened to 53 bits. -/
theorem round_nat (s : Sign) {k : Nat} (hk : k ≠ 0) (hk' : k < 2 ^ 53) :
    round Format.binary64 s k 0 =
      .finite s (k * 2 ^ (52 - k.log2)) (-(52 - k.log2 : Nat)) 
        (by have := (normal_widen hk hk').1; omega) := by
  have hlog : k.log2 < 53 := (Nat.log2_lt hk).mpr hk'
  have htarget : Format.binary64.targetExponent (totalExponent k 0) = -(52 - k.log2 : Nat) := by
    simp only [Format.targetExponent, totalExponent, Format.mantissaBits, Format.minExponent]
    omega
  have hw := normal_widen hk hk'
  simp only [round, decreaseExponent, htarget, Nat.shiftLeft_eq]
  rw [show (0 - -((52 - k.log2 : Nat) : Int)).toNat = 52 - k.log2 by omega]
  simpa using roundWithAccuracy_mul_two_pow s hw.1 hw.2 (by omega) 0

/-- Packing a normal value and unpacking the bits gives the value back. -/
theorem unpack_pack_normal (s : Sign) (hlo : 2 ^ 52 ≤ m) (hhi : m < 2 ^ 53) (he : -1074 ≤ e)
    (he' : e ≤ 971) :
    unpack Format.binary64 (pack Format.binary64 (.finite s m e (by omega))) =
      .finite s m e (by omega) := by
  have hbiased :
      (e + Format.binary64.exponentBias + Format.binary64.mantissaBitsWithoutImplicit).toNat
        = (e + 1075).toNat := by
    simp [Format.exponentBias]
    omega
  simp only [pack, hbiased, log2_of_normal hlo hhi]
  rw [if_neg (by simp; omega), if_pos (show 52 + 1 = Format.binary64.mantissaBits from rfl)]
  simp only [unpack, unpackMantissa_packComponents, unpackExponent_packComponents,
    unpackSign_packComponents, Sign.ofBitVec_toBitVec]
  have hexponent : (BitVec.ofNat 11 (e + 1075).toNat).toNat = (e + 1075).toNat := by
    simp only [BitVec.toNat_ofNat]
    omega
  have hnotTop : BitVec.ofNat 11 (e + 1075).toNat ≠ -1#11 := by
    intro h
    have := congrArg BitVec.toNat h
    simp [hexponent] at this
    omega
  have hnotZero : BitVec.ofNat 11 (e + 1075).toNat ≠ 0#11 := by
    intro h
    have := congrArg BitVec.toNat h
    simp only [hexponent, BitVec.toNat_zero] at this
    omega
  have hmantissa : (1#1 ++ BitVec.ofNat 52 m).toNat = m := by
    simp only [BitVec.toNat_append, BitVec.toNat_ofNat, Nat.one_mod_two_pow (by decide : 0 < 1)]
    rw [← Nat.shiftLeft_add_eq_or_of_lt (Nat.mod_lt _ (by decide)), Nat.shiftLeft_eq]
    omega
  simp only [hnotTop, hnotZero, hmantissa, hexponent, if_false]
  congr 1
  simp [Format.exponentBias]
  omega
end Float.Model.UnpackedFloat

namespace Float.Model

open UnpackedFloat

/-- A normal value survives packing into a `Float.Model` and unpacking. -/
theorem unpack_pack_of_normal (s : Sign) {m : Nat} {e : Int} (hlo : 2 ^ 52 ≤ m)
    (hhi : m < 2 ^ 53) (he : -1074 ≤ e) (he' : e ≤ 971) :
    (pack (.finite s m e (by omega))).unpack = .finite s m e (by omega) := by
  simp only [unpack, pack, UInt64.toBitVec_ofBitVec]
  exact unpack_pack_normal s hlo hhi he he'

end Float.Model

namespace RobotProgram

open Float.Model.UnpackedFloat

/-! ## Integers in the float model -/

section Integers

variable {k : Nat}

/-- A natural number of at most 53 bits converts to a normal float. -/
theorem toModel_toFloat_nat (hk : k ≠ 0) (hk' : k < 2 ^ 53) :
    k.toUInt64.toFloat.toModel =
      Float.Model.pack (.finite .positive (k * 2 ^ (52 - k.log2)) (-(52 - k.log2 : Nat))
        (by have := (normal_widen hk hk').1; omega)) := by
  have hcompare : compare (k : Int) 0 = .gt := Int.compare_eq_gt.mpr (by omega)
  have htoNat : k.toUInt64.toNat = k :=
    UInt64.toNat_ofNat_of_lt (by simp [UInt64.size]; omega)
  simp only [UInt64.toFloat, Float.Model.ofUInt64, UnpackedFloat.ofUInt64, UnpackedFloat.ofNat,
    UnpackedFloat.ofInt, UnpackedFloat.normalize, htoNat, hcompare, Int.toNat_natCast,
    round_nat .positive hk hk']

/-- A natural number of at most 53 bits, scaled by `10 ^ 0`, is that normal float: the scale
is a multiplication by one, which is exact. -/
theorem unpack_ofScientific_nat (hk : k ≠ 0) (hk' : k < 2 ^ 53) :
    (Float.ofScientific k false 0).toModel.unpack =
      .finite .positive (k * 2 ^ (52 - k.log2)) (-(52 - k.log2 : Nat))
        (by have := (normal_widen hk hk').1; omega) := by
  have hw := normal_widen hk hk'
  have hone : (Float.ofBits 0x3FF0000000000000).toModel.unpack =
      .finite .positive (2 ^ 52) (-52) (by decide) := rfl
  rw [Float.ofScientific, dif_pos ⟨hk', by decide⟩]
  show (k.toUInt64.toFloat.toModel.mul (Float.ofBits 0x3FF0000000000000).toModel).unpack = _
  have hlog : k.log2 < 53 := (Nat.log2_lt hk).mpr hk'
  rw [Float.Model.mul, hone, toModel_toFloat_nat hk hk',
    Float.Model.unpack_pack_of_normal .positive hw.1 hw.2 (by omega) (by omega), UnpackedFloat.mul]
  -- the product's mantissa carries the 52 zero bits of the one
  rw [show (-(52 - k.log2 : Nat) : Int) + -52 = (-(52 - k.log2 : Nat)) - (52 : Nat) by omega,
    roundWithAccuracy_mul_two_pow _ hw.1 hw.2 (by omega)]
  exact Float.Model.unpack_pack_of_normal _ hw.1 hw.2 (by omega) (by omega)

/-- A finite float whose mantissa is `k` followed by `d` zero bits, scaled by `2 ^ -d`, is the
integer `k` with its sign. -/
theorem integerValue?_of_unpack {x : Float} {s : Sign} {d : Nat}
    (hk : 0 < k * 2 ^ d)
    (h : x.toModel.unpack = .finite s (k * 2 ^ d) (-(d : Int)) hk) :
    integerValue? x = some (s.apply k) := by
  unfold integerValue?
  rw [h]
  by_cases hd : d = 0
  · subst hd
    simp
  · simp [hd, Nat.mul_mod_left, Nat.mul_div_cancel _ (Nat.two_pow_pos d)]

theorem integerValue?_ofScientific (hk : k ≠ 0) (hk' : k < 2 ^ 53) :
    integerValue? (Float.ofScientific k false 0) = some k :=
  integerValue?_of_unpack _ (unpack_ofScientific_nat hk hk')

theorem integerValue?_neg_ofScientific (hk : k ≠ 0) (hk' : k < 2 ^ 53) :
    integerValue? (-Float.ofScientific k false 0) = some (-(k : Int)) := by
  have hw := normal_widen hk hk'
  have hlog : k.log2 < 53 := (Nat.log2_lt hk).mpr hk'
  have hunpack : (-Float.ofScientific k false 0).toModel.unpack =
      .finite .negative (k * 2 ^ (52 - k.log2)) (-(52 - k.log2 : Nat)) (by omega) := by
    show (Float.Model.pack (Float.ofScientific k false 0).toModel.unpack.neg).unpack = _
    rw [unpack_ofScientific_nat hk hk']
    exact Float.Model.unpack_pack_of_normal .negative hw.1 hw.2 (by omega) (by omega)
  exact integerValue?_of_unpack _ hunpack

end Integers

/-! ## Digit texts -/

namespace Decimal

theorem toLower_of_isDigit {c : Char} (h : c.isDigit = true) : c.toLower = c := by
  simp only [Char.isDigit, Bool.and_eq_true, decide_eq_true_eq] at h
  simp only [Char.toLower]
  rw [dif_neg]
  intro h'
  have h1 := h.2
  have h2 := h'.1
  simp [UInt32.le_iff_toNat_le] at h1 h2
  omega

theorem digitsValue_append_digit (ds : List Char) (c : Char) :
    digitsValue (ds ++ [c]) = 10 * digitsValue ds + (c.toNat - '0'.toNat) := by
  simp [digitsValue, List.foldl_append]

theorem digitsValue_toDigits (k : Nat) : digitsValue (Nat.toDigits 10 k) = k := by
  induction k using Nat.strong_induction_on with
  | _ k ih =>
    by_cases hk : k < 10
    · rw [Nat.toDigits_of_lt_base hk]
      have : ∀ j < 10, digitsValue [Nat.digitChar j] = j := by decide
      exact this k hk
    · have hsplit : Nat.toDigits 10 k = Nat.toDigits 10 (k / 10) ++ [Nat.digitChar (k % 10)] := by
        rw [← Nat.toDigits_of_lt_base (Nat.mod_lt k (by decide)),
          Nat.toDigits_append_toDigits (by decide) (by omega) (Nat.mod_lt k (by decide)),
          Nat.div_add_mod]
      have hdigit : (Nat.digitChar (k % 10)).toNat - '0'.toNat = k % 10 :=
        Nat.toNat_digitChar_sub_48_of_lt_ten (Nat.mod_lt k (by decide))
      rw [hsplit, digitsValue_append_digit, ih _ (by omega), hdigit]
      omega

/-- The decimal digits of a number: a first digit and more, all of them digits. -/
theorem toDigits_eq_cons (k : Nat) :
    ∃ c cs, Nat.toDigits 10 k = c :: cs ∧ ∀ d ∈ c :: cs, d.isDigit = true := by
  obtain ⟨c, cs, hcs⟩ := List.exists_cons_of_ne_nil (Nat.toDigits_ne_nil (n := k) (b := 10))
  refine ⟨c, cs, hcs, fun d hd => ?_⟩
  rw [← hcs] at hd
  exact Nat.isDigit_of_mem_toDigits (by decide) (by decide) hd

/-- A run of digits reads as its value with no scale. -/
theorem readParts_digits {ds : List Char} (hne : ds ≠ []) (hd : ∀ c ∈ ds, c.isDigit = true) :
    readParts ds = some ⟨digitsValue ds, 0⟩ := by
  have hwhole : ds.takeWhile Char.isDigit = ds := List.takeWhile_eq_self_iff.mpr hd
  have hafter : ds.dropWhile Char.isDigit = [] := List.dropWhile_eq_nil_iff.mpr hd
  simp [readParts, hwhole, hafter, hne]

/-- A text that starts with a digit spells no name that starts with a letter. -/
theorem spellsIgnoringCase_digit {c : Char} (hc : c.isDigit = true) (cs : List Char)
    (name : String) (hname : ∀ d ∈ name.toList.head?, d.isDigit = false) :
    spellsIgnoringCase (c :: cs) name = false := by
  unfold spellsIgnoringCase
  cases h : name.toList with
  | nil => simp
  | cons d ds =>
    have hd : d.isDigit = false := hname d (by simp [h])
    have hne : c ≠ d := by
      rintro rfl
      simp [hc] at hd
    simp [toLower_of_isDigit hc, hne]

/-- A run of digits reads as the float nearest its value. -/
theorem readUnsigned_digits {c : Char} {cs : List Char} (hd : ∀ d ∈ c :: cs, d.isDigit = true) :
    readUnsigned (c :: cs) = some (Parts.toFloat ⟨digitsValue (c :: cs), 0⟩) := by
  have hc := hd c (by simp)
  simp [readUnsigned, spellsIgnoringCase_digit hc cs "inf" (by simp),
    spellsIgnoringCase_digit hc cs "infinity" (by simp),
    spellsIgnoringCase_digit hc cs "nan" (by simp), readParts_digits (by simp) hd]

/-- A natural number of at most 53 bits, scaled by `10 ^ 0`, converts with no overflow check
firing. -/
theorem toFloat_nat {k : Nat} (hk : k ≠ 0) (hk' : k < 2 ^ 53) :
    Parts.toFloat ⟨k, 0⟩ = Float.ofScientific k false 0 := by
  have hcount : digitCount k ≤ 16 := Nat.toDigits_length 10 k 16 (by decide) (by omega)
  simp only [Parts.toFloat, hk, if_false]
  rw [if_neg (by omega), if_neg (by omega), if_neg (by omega)]
  rfl
end Decimal

/-! ## Integer texts -/

/-- A text of digits reads as the float nearest its value. -/
theorem readFloat?_digits {s : String} {c : Char} {cs : List Char} (hs : s.toList = c :: cs)
    (hd : ∀ d ∈ c :: cs, d.isDigit = true) :
    readFloat? s = some (Decimal.Parts.toFloat ⟨Decimal.digitsValue (c :: cs), 0⟩) := by
  have hc := hd c (by simp)
  unfold readFloat?
  rw [hs]
  split
  · rename_i heq
    obtain ⟨rfl, -⟩ := List.cons.inj heq
    simp at hc
  · rename_i heq
    obtain ⟨rfl, -⟩ := List.cons.inj heq
    simp at hc
  · exact Decimal.readUnsigned_digits hd

/-- The text of a natural number reads as the float nearest it. -/
theorem readFloat?_natText (k : Nat) :
    readFloat? (toString (k : Int)) = some (Decimal.Parts.toFloat ⟨k, 0⟩) := by
  obtain ⟨c, cs, hcs, hd⟩ := Decimal.toDigits_eq_cons k
  have hs : (toString (k : Int)).toList = c :: cs := by
    simp [Int.repr, Nat.repr, hcs]
  rw [readFloat?_digits hs hd, ← hcs, Decimal.digitsValue_toDigits]

/-- The text of a negative integer reads as the negated float nearest its magnitude. -/
theorem readFloat?_negSuccText (k : Nat) :
    readFloat? (toString (Int.negSucc k)) = some (-Decimal.Parts.toFloat ⟨k + 1, 0⟩) := by
  have hs : (toString (Int.negSucc k)).toList = '-' :: Nat.toDigits 10 (k + 1) := by
    simp [Int.repr, Nat.repr]
  obtain ⟨c, cs, hcs, hd⟩ := Decimal.toDigits_eq_cons (k + 1)
  simp only [readFloat?, hs, hcs, Decimal.readUnsigned_digits hd, Option.map_some]
  rw [← hcs, Decimal.digitsValue_toDigits]

/-- The text of an integer of at most 53 bits reads as a float that is exactly that integer. -/
theorem integerValue?_readFloat? (n : Int) (hn : n.natAbs < 2 ^ 53) :
    ∃ x, readFloat? (toString n) = some x ∧ integerValue? x = some n := by
  match n with
  | .ofNat 0 => exact ⟨_, readFloat?_natText 0, rfl⟩
  | .ofNat (k + 1) =>
    have hk : k + 1 < 2 ^ 53 := hn
    refine ⟨_, readFloat?_natText (k + 1), ?_⟩
    rw [Decimal.toFloat_nat (by omega) hk]
    exact integerValue?_ofScientific (by omega) hk
  | .negSucc k =>
    have hk : k + 1 < 2 ^ 53 := hn
    refine ⟨_, readFloat?_negSuccText k, ?_⟩
    rw [Decimal.toFloat_nat (by omega) hk]
    exact integerValue?_neg_ofScientific (by omega) hk

/-- The text of a quadrant reads back as the same quadrant. -/
theorem quadrant?_readFloat? (q : Int32) :
    ∃ x, readFloat? (toString q.toInt) = some x ∧ ArmConfiguration.quadrant? x = some q := by
  have hlo := Int32.le_toInt q
  have hhi := Int32.toInt_lt q
  obtain ⟨x, hread, hvalue⟩ := integerValue?_readFloat? q.toInt (by omega)
  refine ⟨x, hread, ?_⟩
  simp only [ArmConfiguration.quadrant?, hvalue]
  rw [if_pos (by omega), Int32.ofInt_toInt]

/-! ## What a number text holds -/

/-- A character of a number text other than a special name: a digit, the point, a sign or the
exponent mark. -/
def numeralChar (c : Char) : Bool :=
  c.isDigit || c == '.' || c == '-' || c == '+' || c == 'e'

/-- Every character of the text is a `numeralChar`. -/
def NumeralText (s : String) : Prop := ∀ c ∈ s.toList, numeralChar c = true

instance : DecidablePred NumeralText := fun s =>
  decidable_of_iff (s.toList.all numeralChar = true) List.all_eq_true

namespace NumeralText

theorem append {s t : String} (hs : NumeralText s) (ht : NumeralText t) :
    NumeralText (s ++ t) := by
  intro c hc
  rw [String.toList_append, List.mem_append] at hc
  exact hc.elim (hs c) (ht c)

theorem ofList_sublist {cs ds : List Char} (hsub : cs.Sublist ds)
    (hds : NumeralText (String.ofList ds)) : NumeralText (String.ofList cs) := by
  intro c hc
  rw [String.toList_ofList] at hc
  exact hds c (by rw [String.toList_ofList]; exact hsub.subset hc)

theorem toDigits (n : Nat) : NumeralText (String.ofList (Nat.toDigits 10 n)) := by
  intro c hc
  rw [String.toList_ofList] at hc
  simp [numeralChar, Nat.isDigit_of_mem_toDigits (by decide) (by decide) hc]

theorem zeros (n : Nat) : NumeralText (Layout.zeros n) := by
  intro c hc
  simp only [Layout.zeros, String.toList_ofList, List.mem_replicate] at hc
  rw [hc.2]
  rfl

theorem decimalText (layout : Layout) (d : Decimal) : NumeralText (layout.decimalText d) := by
  unfold Layout.decimalText
  split
  · split <;> decide
  · have hds := toDigits d.digits
    dsimp only
    split
    · -- positional: the digits, cut by a point or padded with zeros
      unfold Layout.positionalText
      dsimp only
      split
      · exact (hds.append (zeros _)).append (by split <;> decide)
      · split
        · exact ((ofList_sublist (List.take_sublist _ _) hds).append (by decide)).append
            (ofList_sublist (List.drop_sublist _ _) hds)
        · exact ((by decide : NumeralText "0.").append (zeros _)).append hds
    · -- scientific: a mantissa, the mark, a sign and the exponent's digits
      unfold Layout.scientificText
      dsimp only
      have hsign : ∀ lead : Int,
          NumeralText (if lead < 0 then "-" else if layout.expPlus then "+" else "") := by
        intro lead
        split
        · decide
        · split <;> decide
      refine ((((?_ : NumeralText _).append (by decide)).append (hsign _)).append
        (zeros _)).append (toDigits _)
      -- the mantissa: the lead digit, then a point and the other digits if there are any
      generalize Nat.toDigits 10 d.digits = ds at hds ⊢
      split
      · decide
      · exact ofList_sublist (List.Sublist.refl _) (by simpa using hds)
      · rename_i d rest _
        have hd : NumeralText (String.singleton d) := fun c hc => hds c (by simp_all)
        exact (hd.append (by decide)).append (ofList_sublist (List.sublist_cons_self _ _) hds)

/-- A number is written with digits, the point, signs and the exponent mark, or as one of the
layout's names for the special values. -/
theorem render (layout : Layout) (x : DecimalFloat) (c : Char)
    (hc : c ∈ (layout.render x).toList) :
    numeralChar c = true ∨ c ∈ layout.nan.toList ∨ c ∈ layout.inf.toList := by
  cases x with
  | nan => exact .inr (.inl hc)
  | infinite negative =>
    simp only [Layout.render, String.toList_append, List.mem_append] at hc
    rcases hc with hc | hc
    · exact .inl ((by split <;> decide : NumeralText (if negative then "-" else "")) c hc)
    · exact .inr (.inr hc)
  | finite negative d =>
    refine .inl (NumeralText.append ?_ (decimalText layout d) c hc)
    split <;> decide

/-- The integer text of a configuration quadrant. -/
theorem intText (n : Int) : NumeralText (toString n) := by
  cases n with
  | ofNat k => exact toDigits k
  | negSucc k => exact (by decide : NumeralText "-").append (toDigits (k + 1))

end NumeralText

/-! ## Where a number text starts -/

theorem Decimal.readUnsigned_nil : Decimal.readUnsigned [] = none := by decide

theorem Decimal.readUnsigned_quote (cs : List Char) : Decimal.readUnsigned ('"' :: cs) = none := by
  have hlower : Char.toLower '"' = '"' := by decide
  simp [Decimal.readUnsigned, Decimal.spellsIgnoringCase, Decimal.readParts, hlower]

/-- A number text is not empty and does not open with a quote. -/
theorem readFloat?_cons {s : String} {x : Float} (h : readFloat? s = some x) :
    ∃ c cs, s.toList = c :: cs ∧ c ≠ '"' := by
  unfold readFloat? at h
  split at h
  · rename_i rest heq
    exact ⟨'-', rest, heq, by decide⟩
  · rename_i rest heq
    exact ⟨'+', rest, heq, by decide⟩
  · cases hcs : s.toList with
    | nil => simp [hcs, Decimal.readUnsigned_nil] at h
    | cons c cs =>
      refine ⟨c, cs, rfl, ?_⟩
      rintro rfl
      simp [hcs, Decimal.readUnsigned_quote] at h

end RobotProgram
