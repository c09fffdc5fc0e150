import RobotProgram.Decimal.Layout
/-!
# RobotProgram.Literal.Basic

Bracket literals: the aggregate values of controller programs, such as
`[[500,0,600],[1,0,0,0],[0,0,0,0],[9E+09,9E+09,9E+09,9E+09,9E+09,9E+09]]`. A literal is a
list of literals, a number, a truth value (`TRUE`, `FALSE`) or a string. Records (targets, tool
frames, load data) are rebuilt from the tree.

Numbers in program text are written by `numberText`: the shortest decimal that reads back,
never with an exponent, and `0` for both zeros.
-/

namespace RobotProgram

/-- One node of an aggregate literal. -/
inductive Literal where
  /-- `[a,b,...]` -/
  | list (items : List Literal)
  /-- A number, including exponent forms such as `9E+09`. -/
  | num (value : Float)
  /-- `TRUE` or `FALSE` -/
  | bool (value : Bool)
  /-- `"text"`, with no escapes. -/
  | str (value : String)
deriving Repr, Inhabited

namespace Literal

/-- The items of a list literal. -/
def items? : Literal → Option (List Literal)
  | .list items => some items
  | _ => none

/-- The value of a number literal. -/
def num? : Literal → Option Float
  | .num x => some x
  | _ => none

/-- The numbers of a list of exactly `n` number literals. -/
def numbers? (n : Nat) (lit : Literal) : Option (List Float) := do
  let items ← lit.items?
  if items.length = n then items.mapM num? else none

end Literal

/-- The text of a truth value in a program: `TRUE` or `FALSE`. -/
def boolText (b : Bool) : String := if b then "TRUE" else "FALSE"

/-- The text of a number in a program: integral values without a fraction, and no negative
zero. -/
def numberText (x : Float) : String :=
  if x == 0 then "0" else Layout.plainText x

end RobotProgram
