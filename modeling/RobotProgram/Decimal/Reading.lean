/-!
# RobotProgram.Decimal.Reading

Reading a decimal number text into the nearest binary64 value.

The accepted texts:

    number   ::= sign? ( "inf" | "infinity" | "nan" | decimal )   (the names in any case)
    decimal  ::= ( digit+ | digit+ "." digit* | digit* "." digit+ ) exponent?
    exponent ::= ( "e" | "E" ) sign? digit+
    sign     ::= "+" | "-"

Nothing else is allowed: no blanks, no digit separators, no hexadecimal. The value of a decimal
is rounded once, to nearest with ties to even (`Float.ofScientific`); a value beyond the largest
finite double is infinite and one below half the least subnormal is zero, with the sign kept.
-/

namespace RobotProgram

namespace Decimal

/-- The value of a digit string. -/
def digitsValue (ds : List Char) : Nat :=
  ds.foldl (fun acc c => 10 * acc + (c.toNat - '0'.toNat)) 0

/-- The parts of a decimal: its digits without the point, and the power of ten they are scaled
by. -/
structure Parts where
  mantissa : Nat
  exp : Int

/-- Reads `digit+ "." digit*`, `digit* "." digit+` or `digit+`, then an optional exponent, and
nothing after it. -/
def readParts (cs : List Char) : Option Parts :=
  let whole := cs.takeWhile Char.isDigit
  let afterWhole := cs.dropWhile Char.isDigit
  let (frac, afterFrac) := match afterWhole with
    | '.' :: rest => (rest.takeWhile Char.isDigit, rest.dropWhile Char.isDigit)
    | rest => ([], rest)
  if whole.isEmpty && frac.isEmpty then none
  else
    let mantissa := digitsValue (whole ++ frac)
    let scale : Int := -(frac.length : Int)
    match afterFrac with
    | [] => some ⟨mantissa, scale⟩
    | e :: rest =>
      if e = 'e' || e = 'E' then
        let (negative, digits) := match rest with
          | '+' :: ds => (false, ds)
          | '-' :: ds => (true, ds)
          | ds => (false, ds)
        if digits.isEmpty || !digits.all Char.isDigit then none
        else
          let n : Int := digitsValue digits
          some ⟨mantissa, scale + (if negative then -n else n)⟩
      else none

/-- The number of decimal digits of `n` (one for zero). -/
def digitCount (n : Nat) : Nat := (Nat.toDigits 10 n).length

/-- Positive infinity. -/
def infinity : Float := Float.ofBits 0x7FF0000000000000

/-- The quiet NaN. -/
def notANumber : Float := Float.ofBits 0x7FF8000000000000

/-- The binary64 value nearest to `mantissa * 10 ^ exp`. A value of at least `10 ^ 309` is
infinite and one below `10 ^ -400` is zero; between them one rounding decides. -/
def Parts.toFloat (p : Parts) : Float :=
  if p.mantissa = 0 then 0.0
  else
    let lead : Int := (digitCount p.mantissa : Int) - 1 + p.exp
    if lead ≥ 309 then infinity
    else if lead < -400 then 0.0
    else if p.exp < 0 then Float.ofScientific p.mantissa true p.exp.natAbs
    else Float.ofScientific p.mantissa false p.exp.toNat

/-- The text spells `name` in any mix of cases. -/
def spellsIgnoringCase (cs : List Char) (name : String) : Bool :=
  cs.map Char.toLower == name.toList

/-- Reads an unsigned number: a special name or a decimal. -/
def readUnsigned (cs : List Char) : Option Float :=
  if spellsIgnoringCase cs "inf" || spellsIgnoringCase cs "infinity" then some infinity
  else if spellsIgnoringCase cs "nan" then some notANumber
  else (readParts cs).map Parts.toFloat

end Decimal

/-- Reads a number text by the grammar above; `none` when the text is not a number. -/
def readFloat? (s : String) : Option Float :=
  match s.toList with
  | '-' :: rest => (Decimal.readUnsigned rest).map (fun x => -x)
  | '+' :: rest => Decimal.readUnsigned rest
  | cs => Decimal.readUnsigned cs

end RobotProgram
