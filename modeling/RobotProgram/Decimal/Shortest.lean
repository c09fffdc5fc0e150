/-!
# RobotProgram.Decimal.Shortest

The fewest decimal digits that read back to a binary64 value.

A finite non-negative binary64 value is `m * 2 ^ q`. The reals that round to it form an
interval: from halfway to the neighbour below to halfway to the neighbour above, both ends
included exactly when `m` is even (ties go to the even neighbour when reading). A decimal
*reads back* when it lies in that interval (`Binary.readsBack`).

The selection (`Binary.shortest`) looks at the grids `10 ^ (k - n)` for `n = 1, 2, …` digits,
where `10 ^ (k - 1) ≤ x < 10 ^ k`. On each grid only the value's two neighbours can be the
answer; the first grid with a neighbour that reads back wins, the nearer of two such neighbours
is taken, and an exact tie goes to the upper one. All comparisons are exact, on naturals.

Main statements:
* `strip_value`: dropping trailing zeros keeps the value of a decimal.
* `readsBack_onGrid`: what a grid search returns reads back.
-/

-- Powers are `Nat.pow` and `Int.pow` themselves, whatever algebraic instances are in scope.
attribute [local instance (high)] instPowNat

namespace RobotProgram

/-- The decimal `digits * 10 ^ exp`. -/
structure Decimal where
  digits : Nat
  exp : Int
deriving Repr, DecidableEq, Inhabited

namespace Decimal

/-! ## Binary values -/

/-- A finite non-negative binary64 value `m * 2 ^ q`. -/
structure Binary where
  m : Nat
  q : Int
  /-- The gap to the value below is half the gap to the value above (a power of two). -/
  narrowBelow : Bool
deriving Repr

/-- The magnitude of a finite value, read off its bits; the sign bit is ignored. -/
def Binary.ofBits (b : UInt64) : Binary :=
  let e := ((b >>> 52) &&& 0x7FF).toNat
  let f := (b &&& 0xFFFFFFFFFFFFF).toNat
  if e == 0 then ⟨f, -1074, false⟩ else ⟨2 ^ (52 : Nat) + f, (e : Int) - 1075, f == 0 && e > 1⟩

/-- Compares `a * 10 ^ i` with `n * 2 ^ j` exactly, by moving negative powers across. -/
def cmpScaled (a : Nat) (i : Int) (n : Nat) (j : Int) : Ordering :=
  compare (a * 10 ^ i.toNat * 2 ^ (-j).toNat) (n * 2 ^ j.toNat * 10 ^ (-i).toNat)

/-- The decimal lies among the reals that round to `x` (to nearest, ties to even). The ends of
the interval are `(4m - 2) * 2 ^ (q - 2)` (or `4m - 1` below a power of two) and
`(4m + 2) * 2 ^ (q - 2)`. -/
def Binary.readsBack (x : Binary) (d : Decimal) : Bool :=
  let lo := if x.narrowBelow then 4 * x.m - 1 else 4 * x.m - 2
  let hi := 4 * x.m + 2
  let incl := x.m % 2 == 0
  let cl := cmpScaled d.digits d.exp lo (x.q - 2)
  let ch := cmpScaled d.digits d.exp hi (x.q - 2)
  (cl == .gt || (incl && cl == .eq)) && (ch == .lt || (incl && ch == .eq))

/-- `x < 10 ^ k`. -/
def Binary.below (x : Binary) (k : Int) : Bool :=
  cmpScaled 1 k x.m x.q == .gt

/-- The least `k` with `x < 10 ^ k`, for `x > 0`. The estimate from the binary logarithm is
at most one below the true scale and never above it, so a scan of five candidates finds it. -/
def Binary.scale (x : Binary) : Int :=
  let est : Int := ((Nat.log2 x.m : Int) + x.q) * 30103 / 100000
  let candidates := (List.range 5).map fun (i : Nat) => est - 1 + (i : Int)
  (candidates.find? x.below).getD (est + 4)

/-- The value's lower neighbour on the grid `10 ^ s`, as a count of grid steps. -/
def Binary.floorOnGrid (x : Binary) (s : Int) : Nat :=
  (x.m * 2 ^ x.q.toNat * 10 ^ (-s).toNat) / (2 ^ (-x.q).toNat * 10 ^ s.toNat)

/-- The neighbour on the grid `10 ^ s` that reads back, if any: of two, the nearer, and on an
exact tie the upper. -/
def Binary.onGrid (x : Binary) (s : Int) : Option Decimal :=
  let a := x.floorOnGrid s
  let down : Decimal := ⟨a, s⟩
  let up : Decimal := ⟨a + 1, s⟩
  match x.readsBack down, x.readsBack up with
  | true, true =>
    -- compare the midpoint `(2a + 1) * 10 ^ s / 2` with `x`
    if cmpScaled (2 * a + 1) s (2 * x.m) x.q == .gt then some down else some up
  | true, false => some down
  | false, true => some up
  | false, false => none

/-- The exact decimal value of `x`; never needed, since seventeen digits always read back. -/
def Binary.exact (x : Binary) : Decimal :=
  if x.q ≥ 0 then ⟨x.m * 2 ^ x.q.toNat, 0⟩ else ⟨x.m * 5 ^ (-x.q).toNat, x.q⟩

/-- Drops trailing zeros of the digits into the exponent. -/
def strip (digits : Nat) (exp : Int) : Decimal :=
  if h : digits ≠ 0 ∧ digits % 10 = 0 then strip (digits / 10) (exp + 1) else ⟨digits, exp⟩
termination_by digits
decreasing_by omega

/-- Dropping trailing zeros only moves factors of ten from the digits into the exponent: the
exponent grows by some `t` and the digits times `10 ^ t` are the old digits. -/
theorem strip_value (digits : Nat) (exp : Int) :
    exp ≤ (strip digits exp).exp ∧
      (strip digits exp).digits * 10 ^ ((strip digits exp).exp - exp).toNat = digits := by
  induction digits, exp using strip.induct with
  | case1 d e h ih =>
    rw [strip, dif_pos h]
    obtain ⟨hle, hval⟩ := ih
    refine ⟨by omega, ?_⟩
    have ht : ((strip (d / 10) (e + 1)).exp - e).toNat
        = ((strip (d / 10) (e + 1)).exp - (e + 1)).toNat + 1 := by omega
    rw [ht, Nat.pow_succ, ← Nat.mul_assoc, hval]
    omega
  | case2 d e h =>
    rw [strip, dif_neg h]
    simp

/-- The shortest decimal that reads back to `x`, for `x.m > 0`. -/
def Binary.shortest (x : Binary) : Decimal :=
  let k := x.scale
  match (List.range 17).findSome? fun n => x.onGrid (k - (n + 1 : Nat)) with
  | some d => strip d.digits d.exp
  | none => let e := x.exact; strip e.digits e.exp

/-- What the grid search returns reads back. -/
theorem readsBack_onGrid {x : Binary} {s : Int} {d : Decimal} (h : x.onGrid s = some d) :
    x.readsBack d = true := by
  unfold Binary.onGrid at h
  cases hd : x.readsBack ⟨x.floorOnGrid s, s⟩ <;>
    cases hu : x.readsBack ⟨x.floorOnGrid s + 1, s⟩ <;> simp only [hd, hu] at h
  · cases h
  · cases h; exact hu
  · cases h; exact hd
  · split at h <;> cases h <;> assumption

end Decimal

/-! ## Signed values -/

/-- A binary64 value seen as text would show it: not a number, a signed infinity, or a signed
shortest decimal (zero is the decimal with no digits). -/
inductive DecimalFloat where
  | nan
  | infinite (negative : Bool)
  | finite (negative : Bool) (value : Decimal)
deriving Repr, DecidableEq

/-- Reads the sign, the class and the shortest digits off the bits of `x`. -/
def DecimalFloat.ofFloat (x : Float) : DecimalFloat :=
  let b := x.toBits
  let negative := b >>> 63 == 1
  if (b >>> 52) &&& 0x7FF == 0x7FF then
    if b &&& 0xFFFFFFFFFFFFF == 0 then .infinite negative else .nan
  else
    let bin := Decimal.Binary.ofBits b
    if bin.m == 0 then .finite negative ⟨0, 0⟩ else .finite negative bin.shortest

end RobotProgram
