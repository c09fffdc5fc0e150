import RobotProgram.Decimal.Shortest
/-!
# RobotProgram.Decimal.Layout

How a selected decimal is laid out as text. The digits come from `Decimal.Shortest`; a
`Layout` record holds every decision a text format makes about them: which exponents are
written positionally, whether an integral value keeps `.0`, how an exponent is marked, whether
zero keeps its sign, and the texts of the special values.

Two layouts are used: `Layout.plain`, the number text of controller programs and messages
(never an exponent, `100` for a hundred), and `Layout.data`, the number text of structured
answers (a `.0` on integral values, an exponent outside `1e-4 ≤ |x| < 1e16`).
-/

namespace RobotProgram

/-- Every decision a number format makes once the digits are chosen. -/
structure Layout where
  /-- Whether a value whose leading digit has exponent `e` is written without an exponent. -/
  positional : Int → Bool
  /-- An integral value written positionally keeps a `.0`. -/
  pointZero : Bool
  /-- The exponent carries `+` when it is not negative. -/
  expPlus : Bool
  /-- The least number of exponent digits. -/
  expWidth : Nat
  /-- Negative zero is written with its sign. -/
  signedZero : Bool
  /-- The text of a NaN. -/
  nan : String
  /-- The text of positive infinity; negative infinity adds a minus sign. -/
  inf : String

namespace Layout

/-- Program and message text: positional always, no `.0`, `-0` for negative zero, `NaN`, `inf`. -/
def plain : Layout where
  positional := fun _ => true
  pointZero := false
  expPlus := false
  expWidth := 1
  signedZero := true
  nan := "NaN"
  inf := "inf"

/-- Structured answers: positional from `1e-4` up to below `1e16`, then `1e+16` and `1e-05`. -/
def data : Layout where
  positional := fun e => -4 ≤ e ∧ e < 16
  pointZero := true
  expPlus := true
  expWidth := 2
  signedZero := true
  nan := "NaN"
  inf := "inf"

/-- `n` zeros. -/
def zeros (n : Nat) : String := String.ofList (List.replicate n '0')

/-- The positional text of `digits * 10 ^ exp`, where the digits are written `ds`. -/
def positionalText (layout : Layout) (ds : List Char) (exp : Int) : String :=
  let n : Int := ds.length
  if exp ≥ 0 then
    String.ofList ds ++ zeros exp.toNat ++ (if layout.pointZero then ".0" else "")
  else if n + exp > 0 then
    let whole := (n + exp).toNat
    String.ofList (ds.take whole) ++ "." ++ String.ofList (ds.drop whole)
  else
    "0." ++ zeros (-(n + exp)).toNat ++ String.ofList ds

/-- The exponent form `d.ddd` followed by the mark and the exponent of the leading digit. -/
def scientificText (layout : Layout) (ds : List Char) (lead : Int) : String :=
  let mantissa := match ds with
    | [] => "0"
    | [d] => String.singleton d
    | d :: rest => String.singleton d ++ "." ++ String.ofList rest
  let sign := if lead < 0 then "-" else if layout.expPlus then "+" else ""
  let digits := toString lead.natAbs
  mantissa ++ "e" ++ sign ++ zeros (layout.expWidth - digits.length) ++ digits

/-- The text of a non-negative decimal. Zero is `0` (or `0.0`). -/
def decimalText (layout : Layout) (d : Decimal) : String :=
  if d.digits = 0 then
    if layout.pointZero then "0.0" else "0"
  else
    let ds := Nat.toDigits 10 d.digits
    let lead := (ds.length : Int) + d.exp - 1
    if layout.positional lead then positionalText layout ds d.exp
    else scientificText layout ds lead

/-- The text of a value: special values by their names, a sign, then the decimal. -/
def render (layout : Layout) : DecimalFloat → String
  | .nan => layout.nan
  | .infinite negative => (if negative then "-" else "") ++ layout.inf
  | .finite negative d =>
    let sign := if negative && (d.digits ≠ 0 || layout.signedZero) then "-" else ""
    sign ++ layout.decimalText d

/-- The program text of a float: the shortest digits that read back, positional, `-0`, `NaN`,
`inf`. -/
def plainText (x : Float) : String :=
  plain.render (DecimalFloat.ofFloat x)

/-- The answer text of a finite float; NaN and the infinities have names instead. -/
def dataText (x : Float) : String :=
  data.render (DecimalFloat.ofFloat x)

end Layout

end RobotProgram
