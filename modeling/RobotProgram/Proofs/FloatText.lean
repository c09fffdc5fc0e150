import RobotProgram.Proofs.ShortestDigits
/-!
# RobotProgram.Proofs.FloatText

The program text of every float reads back as that float.

The text of a float shows its sign, its class and its shortest decimal, written positionally
(`Layout.plainText`). A finite nonzero float `m * 2 ^ q` shows digits that round back to it
(`roundsTo_shortest`). Their positional text reads as a decimal of the same value
(`readParts_positionalText`): the digits and the zeros after them for a whole number, the digits
with the point among them or after a `0.` otherwise. That decimal passes both cutoffs of the
reader, and converting it rounds it back to `m * 2 ^ q` (`unpack_toFloat`). Not a number, the
infinities and the zeros are spelled and read by name; a minus sign reads as negation, which
flips the sign of the value (`unpack_neg_of_canonical`).

Main statement: `readFloat?_plainText`.
-/

open Float.Model Float.Model.UnpackedFloat

namespace RobotProgram

namespace Decimal

/-! ## Digit strings -/

/-- Reading more digits after a value already read. -/
theorem foldl_digit_eq (ds : List Char) (a : Nat) :
    ds.foldl (fun acc c => 10 * acc + (c.toNat - '0'.toNat)) a =
      a * 10 ^ ds.length + digitsValue ds := by
  induction ds generalizing a with
  | nil => simp [digitsValue]
  | cons c ds ih =>
    simp only [List.foldl_cons, digitsValue, List.length_cons] at ih ⊢
    rw [ih, ih (10 * 0 + _)]
    ring

/-- The value of digits followed by more digits. -/
theorem digitsValue_append (ds es : List Char) :
    digitsValue (ds ++ es) = digitsValue ds * 10 ^ es.length + digitsValue es := by
  rw [digitsValue, List.foldl_append, foldl_digit_eq]
  rfl

theorem digitsValue_zeros (k : Nat) : digitsValue (List.replicate k '0') = 0 := by
  induction k with
  | zero => rfl
  | succ k ih =>
    rw [List.replicate_succ', digitsValue_append, ih]
    rfl

theorem isDigit_of_mem_zeros {k : Nat} {c : Char} (hc : c ∈ List.replicate k '0') :
    c.isDigit = true := by
  rw [List.eq_of_mem_replicate hc]
  decide

/-! ## Reading positional text -/

/-- Digits with a point after the first of them read as all the digits, scaled by the number
after the point. -/
theorem readParts_point {w f : List Char} (hw : ∀ c ∈ w, c.isDigit = true)
    (hf : ∀ c ∈ f, c.isDigit = true) (hne : w ≠ []) :
    readParts (w ++ '.' :: f) = some ⟨digitsValue (w ++ f), -(f.length : Int)⟩ := by
  have hpoint : '.'.isDigit = false := by decide
  have hwhole : (w ++ '.' :: f).takeWhile Char.isDigit = w := by
    rw [List.takeWhile_append_of_pos hw, List.takeWhile_cons_of_neg (by simp [hpoint]),
      List.append_nil]
  have hafter : (w ++ '.' :: f).dropWhile Char.isDigit = '.' :: f := by
    rw [List.dropWhile_append_of_pos hw, List.dropWhile_cons_of_neg (by simp [hpoint])]
  have hfrac : f.takeWhile Char.isDigit = f := List.takeWhile_eq_self_iff.mpr hf
  have hrest : f.dropWhile Char.isDigit = [] := List.dropWhile_eq_nil_iff.mpr hf
  simp [readParts, hwhole, hafter, hfrac, hrest, hne]

/-- The positional text of digits at a scale reads back as a decimal of the same value: the
digits and the zeros after them as a whole number, or the digits at the scale. -/
theorem readParts_positionalText {ds : List Char} (hne : ds ≠ [])
    (hd : ∀ c ∈ ds, c.isDigit = true) (exp : Int) :
    readParts (Layout.plain.positionalText ds exp).toList =
      some (if 0 ≤ exp then ⟨digitsValue ds * 10 ^ exp.toNat, 0⟩ else ⟨digitsValue ds, exp⟩) := by
  unfold Layout.positionalText
  by_cases hexp : exp ≥ 0
  · -- the digits, then `exp` zeros
    rw [if_pos hexp, if_pos hexp]
    have htext : (String.ofList ds ++ Layout.zeros exp.toNat ++
        (if Layout.plain.pointZero then ".0" else "")).toList =
        ds ++ List.replicate exp.toNat '0' := by
      simp [Layout.plain, Layout.zeros]
    rw [htext, readParts_digits (by simp [hne])
      (fun c hc => (List.mem_append.mp hc).elim (hd c) isDigit_of_mem_zeros),
      digitsValue_append, digitsValue_zeros, List.length_replicate, Nat.add_zero]
  rw [if_neg hexp, if_neg (show ¬0 ≤ exp by omega)]
  by_cases hwhole : (ds.length : Int) + exp > 0
  · -- the point among the digits
    rw [if_pos hwhole]
    have htext : (String.ofList (ds.take (ds.length + exp).toNat) ++ "." ++
        String.ofList (ds.drop (ds.length + exp).toNat)).toList =
        ds.take (ds.length + exp).toNat ++ '.' :: ds.drop (ds.length + exp).toNat := by
      simp
    rw [htext, readParts_point (fun c hc => hd c (List.mem_of_mem_take hc))
      (fun c hc => hd c (List.mem_of_mem_drop hc)) (by simp [hne]; omega),
      List.take_append_drop, List.length_drop]
    congr 3
    omega
  · -- a leading `0.` and zeros before the digits
    rw [if_neg hwhole]
    have htext : ("0." ++ Layout.zeros (-(ds.length + exp)).toNat ++ String.ofList ds).toList =
        ['0'] ++ '.' :: (List.replicate (-(ds.length + exp)).toNat '0' ++ ds) := by
      simp [Layout.zeros]
    rw [htext, readParts_point (by simp) (fun c hc => (List.mem_append.mp hc).elim
      isDigit_of_mem_zeros (hd c)) (by simp), ← List.append_assoc, digitsValue_append,
      List.singleton_append, ← List.replicate_succ, digitsValue_zeros]
    simp
    omega

/-! ## Converting the decimal -/

/-- A nonzero number lies between the powers of ten its digit count gives. -/
theorem digitCount_bounds {N : Nat} (hN : N ≠ 0) :
    10 ^ (digitCount N - 1) ≤ N ∧ N < 10 ^ digitCount N := by
  have hpos : 0 < digitCount N := Nat.length_toDigits_pos
  refine ⟨?_, (Nat.length_toDigits_le_iff (by decide) hpos).mp le_rfl⟩
  by_cases hone : digitCount N = 1
  · rw [hone, Nat.sub_self, Nat.pow_zero]
    omega
  · have hlen : ¬(Nat.toDigits 10 N).length ≤ digitCount N - 1 := by
      change ¬digitCount N ≤ digitCount N - 1
      omega
    rw [Nat.length_toDigits_le_iff (by decide) (by omega)] at hlen
    exact Nat.le_of_not_lt hlen

/-- The value of a decimal whose leading digit sits at `10 ^ lead`. -/
theorem value_bounds {p : Parts} (hN : p.mantissa ≠ 0) :
    (10 : ℚ) ^ ((digitCount p.mantissa : Int) - 1 + p.exp) ≤ p.mantissa * 10 ^ p.exp ∧
      (p.mantissa : ℚ) * 10 ^ p.exp < 10 ^ ((digitCount p.mantissa : Int) + p.exp) := by
  obtain ⟨hlo, hhi⟩ := digitCount_bounds hN
  have hpos : 0 < digitCount p.mantissa := Nat.length_toDigits_pos
  have hten : (0 : ℚ) < 10 ^ p.exp := by positivity
  constructor
  · have hcast : ((10 ^ (digitCount p.mantissa - 1) : ℕ) : ℚ) ≤ p.mantissa := by exact_mod_cast hlo
    rw [zpow_add₀ (by norm_num), show (digitCount p.mantissa : Int) - 1 =
      ((digitCount p.mantissa - 1 : ℕ) : Int) by omega, zpow_natCast]
    push_cast at hcast
    exact mul_le_mul_of_nonneg_right hcast hten.le
  · have hcast : (p.mantissa : ℚ) < ((10 ^ digitCount p.mantissa : ℕ) : ℚ) := by exact_mod_cast hhi
    rw [zpow_add₀ (by norm_num), zpow_natCast]
    push_cast at hcast
    exact mul_lt_mul_of_pos_right hcast hten

/-- A decimal that rounds to a finite nonzero float passes both cutoffs and converts to it. -/
theorem unpack_toFloat {p : Parts} (hN : p.mantissa ≠ 0) {m : Nat} {q : Int} (hc : Canonical m q)
    (hr : RoundsTo m q ((p.mantissa : ℚ) * 10 ^ p.exp)) :
    p.toFloat.toModel.unpack = .finite .positive m q hc.pos := by
  obtain ⟨hlead, hnext⟩ := value_bounds hN
  have hbelow : (p.mantissa : ℚ) * 10 ^ p.exp < 10 ^ (309 : Int) := by
    calc (p.mantissa : ℚ) * 10 ^ p.exp < 2 ^ (q + 53) := hr.lt_two_zpow hc
      _ ≤ 2 ^ (1024 : Int) := zpow_le_zpow_right₀ one_le_two (by linarith [hc.exp_le])
      _ < 10 ^ (309 : Int) := by
        rw [show (1024 : Int) = (1024 : ℕ) from rfl, show (309 : Int) = (309 : ℕ) from rfl,
          zpow_natCast, zpow_natCast]
        have h : (2 : ℕ) ^ 1024 < 10 ^ 309 := calc
          (2 : ℕ) ^ 1024 = (2 ^ 8) ^ 128 := by rw [← pow_mul]
          _ < (10 ^ 3) ^ 103 := by norm_num
          _ = 10 ^ 309 := by rw [← pow_mul]
        exact_mod_cast h
  have habove : (10 : ℚ) ^ (-400 : Int) < p.mantissa * 10 ^ p.exp := by
    calc (10 : ℚ) ^ (-400 : Int) < 2 ^ (-1075 : Int) := by
          rw [zpow_neg, zpow_neg, inv_lt_inv₀ (by positivity) (by positivity)]
          have h : (2 : ℕ) ^ 1075 < 10 ^ 400 := calc
            (2 : ℕ) ^ 1075 = (2 ^ 5) ^ 215 := by rw [← pow_mul]
            _ < (10 ^ 2) ^ 200 := by norm_num
            _ = 10 ^ 400 := by rw [← pow_mul]
          exact_mod_cast h
      _ ≤ 2 ^ (q - 1) := zpow_le_zpow_right₀ one_le_two (by linarith [hc.exp_ge])
      _ < p.mantissa * 10 ^ p.exp := hr.two_zpow_lt hc
  have hlt : (digitCount p.mantissa : Int) - 1 + p.exp < 309 := by
    by_contra hge
    have := zpow_le_zpow_right₀ (by norm_num : (1 : ℚ) ≤ 10) (not_lt.mp hge)
    linarith
  have hge : ¬(digitCount p.mantissa : Int) - 1 + p.exp < -400 := by
    intro hlow
    have := zpow_le_zpow_right₀ (by norm_num : (1 : ℚ) ≤ 10)
      (show (digitCount p.mantissa : Int) + p.exp ≤ -400 by omega)
    linarith
  simp only [Parts.toFloat]
  rw [if_neg hN, if_neg (by omega), if_neg hge]
  split
  · rename_i hneg
    refine unpack_ofScientific_of_roundsTo hN true p.exp.natAbs hc ?_
    rwa [if_pos rfl, show -(p.exp.natAbs : Int) = p.exp by omega]
  · rename_i hnonneg
    refine unpack_ofScientific_of_roundsTo hN false p.exp.toNat hc ?_
    rwa [if_neg Bool.false_ne_true, show (p.exp.toNat : Int) = p.exp by omega]

end Decimal

open Decimal

/-! ## Floats and their unpacked values -/

/-- A float is determined by the value the model unpacks from it. -/
theorem eq_of_unpack_eq {x y : Float} (h : x.toModel.unpack = y.toModel.unpack) : x = y :=
  Float.toBits_inj.mp <| UInt64.toBitVec_inj.mp <|
    (unpack_inj_of_valid x.toModel.valid y.toModel.valid).mp h

/-- Negating a float whose value is canonical flips the sign of the value. -/
theorem unpack_neg_of_canonical {y : Float} {m : Nat} {q : Int} (hc : Canonical m q)
    (hy : y.toModel.unpack = .finite .positive m q hc.pos) :
    (-y).toModel.unpack = .finite .negative m q hc.pos := by
  show (Float.Model.pack y.toModel.unpack.neg).unpack = _
  rw [unpack_pack_model, hy]
  exact unpack_pack_canonical .negative hc

/-! ## Reading the text back -/

/-- A text that opens with a digit is a decimal, never a name. -/
theorem readUnsigned_of_isDigit {c : Char} (hc : c.isDigit = true) (cs : List Char) :
    readUnsigned (c :: cs) = (readParts (c :: cs)).map Parts.toFloat := by
  simp [readUnsigned, spellsIgnoringCase_digit hc cs "inf" (by simp),
    spellsIgnoringCase_digit hc cs "infinity" (by simp),
    spellsIgnoringCase_digit hc cs "nan" (by simp)]

/-- An optional minus sign, then a text that opens with a digit. -/
theorem readFloat?_signed (neg : Bool) {t : String} {c : Char} {cs : List Char}
    (ht : t.toList = c :: cs) (hc : c.isDigit = true) :
    readFloat? ((if neg then "-" else "") ++ t) =
      (readUnsigned (c :: cs)).map (fun y => if neg then -y else y) := by
  cases neg
  · -- no sign: the digit opens the text
    simp only [Bool.false_eq_true, if_false, String.empty_append]
    unfold readFloat?
    rw [ht]
    split
    · rename_i heq
      obtain ⟨rfl, -⟩ := List.cons.inj heq
      simp at hc
    · rename_i heq
      obtain ⟨rfl, -⟩ := List.cons.inj heq
      simp at hc
    · simp
  · simp [readFloat?, ht]

/-- The plain text of a nonzero decimal is positional. -/
theorem decimalText_plain {d : Decimal} (hd : d.digits ≠ 0) :
    Layout.plain.decimalText d = Layout.plain.positionalText (Nat.toDigits 10 d.digits) d.exp := by
  simp [Layout.decimalText, hd, Layout.plain]

/-- Positional text opens with a digit: the leading one, or the zero before the point. -/
theorem positionalText_head {ds : List Char} (hne : ds ≠ []) (hd : ∀ c ∈ ds, c.isDigit = true)
    (exp : Int) :
    ∃ c cs, (Layout.plain.positionalText ds exp).toList = c :: cs ∧ c.isDigit = true := by
  obtain ⟨c, cs, rfl⟩ := List.exists_cons_of_ne_nil hne
  have hc := hd c (by simp)
  unfold Layout.positionalText
  dsimp only
  split
  · exact ⟨c, cs ++ (Layout.zeros exp.toNat).toList, by simp [Layout.plain], hc⟩
  split
  · rename_i hwhole
    obtain ⟨w, hw⟩ : ∃ w, ((c :: cs).length + exp).toNat = w + 1 :=
      ⟨_, (Nat.succ_pred_eq_of_pos (by omega)).symm⟩
    refine ⟨c, cs.take w ++ '.' :: cs.drop w, ?_, hc⟩
    simp only [String.toList_append, String.toList_ofList]
    rw [hw]
    simp
  · exact ⟨'0', '.' :: (List.replicate (-((c :: cs).length + exp)).toNat '0' ++ c :: cs),
      by simp [Layout.zeros], by decide⟩

/-- The plain text of a decimal that rounds to a finite nonzero float opens with a digit and
reads as that float. -/
theorem readUnsigned_decimalText {d : Decimal} {m : Nat} {q : Int} (hc : Canonical m q)
    (hr : RoundsTo m q d.value) :
    ∃ c cs y, (Layout.plain.decimalText d).toList = c :: cs ∧ c.isDigit = true ∧
      readUnsigned (c :: cs) = some y ∧ y.toModel.unpack = .finite .positive m q hc.pos := by
  have hd : d.digits ≠ 0 := by
    intro h0
    have hpos := hr.two_zpow_lt hc
    simp [value, h0] at hpos
    linarith [two_zpow_pos (q - 1)]
  obtain ⟨c0, cs0, hds, hdigits⟩ := toDigits_eq_cons d.digits
  obtain ⟨c, cs, htext, hc0⟩ := positionalText_head (by simp [hds]) (hds ▸ hdigits) d.exp
  rw [decimalText_plain hd]
  refine ⟨c, cs, _, htext, hc0, by rw [readUnsigned_of_isDigit hc0, ← htext,
    readParts_positionalText (by simp [hds]) (hds ▸ hdigits), Option.map_some], ?_⟩
  rw [digitsValue_toDigits]
  split
  · -- a whole number: the digits and the zeros after them
    rename_i hexp
    apply unpack_toFloat (by simp [hd]) hc
    have hv : ((d.digits * 10 ^ d.exp.toNat : ℕ) : ℚ) * 10 ^ (0 : Int) = d.value := by
      rw [value, zpow_zero, mul_one]
      push_cast
      rw [← zpow_natCast, Int.toNat_of_nonneg hexp]
    rwa [hv]
  · exact unpack_toFloat hd hc hr

/-- The plain text of a finite value: its sign, then its decimal. -/
theorem render_plain_finite (negative : Bool) (d : Decimal) :
    Layout.plain.render (.finite negative d) =
      (if negative then "-" else "") ++ Layout.plain.decimalText d := by
  simp [Layout.render, Layout.plain]

/-- The program text of every float reads back as that float: not a number as the one NaN of
the model, the infinities and the zeros with their signs, and a finite value through its
shortest digits. -/
theorem readFloat?_plainText (x : Float) : readFloat? (Layout.plainText x) = some x := by
  rw [Layout.plainText, DecimalFloat.ofFloat_eq]
  cases hu : x.toModel.unpack with
  | notANumber =>
    -- every NaN is the one canonical NaN of the model
    have hnan : notANumber.toModel.unpack = .notANumber := rfl
    exact congrArg some (eq_of_unpack_eq (hnan.trans hu.symm))
  | infinity s =>
    cases s
    · have hinf : (-Decimal.infinity).toModel.unpack = .infinity .negative := rfl
      exact (rfl : readFloat? "-inf" = some (-Decimal.infinity)).trans
        (congrArg some (eq_of_unpack_eq (hinf.trans hu.symm)))
    · have hinf : Decimal.infinity.toModel.unpack = .infinity .positive := rfl
      exact (rfl : readFloat? "inf" = some Decimal.infinity).trans
        (congrArg some (eq_of_unpack_eq (hinf.trans hu.symm)))
  | zero s =>
    cases s
    · have hzero : (-(0.0 : Float)).toModel.unpack = .zero .negative := rfl
      exact (rfl : readFloat? "-0" = some (-0.0)).trans
        (congrArg some (eq_of_unpack_eq (hzero.trans hu.symm)))
    · have hzero : (0.0 : Float).toModel.unpack = .zero .positive := rfl
      exact (rfl : readFloat? "0" = some 0.0).trans
        (congrArg some (eq_of_unpack_eq (hzero.trans hu.symm)))
  | finite s m q hm =>
    have hc := canonical_of_unpack hu
    obtain ⟨c, cs, y, htext, hdigit, hread, hy⟩ :=
      readUnsigned_decimalText hc (roundsTo_shortest hm q)
    rw [render_plain_finite, readFloat?_signed _ htext hdigit, hread, Option.map_some]
    refine congrArg some ?_
    cases s
    · exact eq_of_unpack_eq ((unpack_neg_of_canonical hc hy).trans hu.symm)
    · exact eq_of_unpack_eq (hy.trans hu.symm)

end RobotProgram
