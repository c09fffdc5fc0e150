/-!
# RobotProgram.Toml.Value

The tree a TOML document reads into. Every value keeps the byte offset where its text starts,
so that a later failure to use it can point at it. A table made on the way to a longer key
has no text of its own and keeps the offset of the key part that first named it; an array of
tables is placed at its first header. Tables keep their entries in the order the document
defines them.

Tables come in four kinds, which decide what a document may still add to them:

* a table opened by a header (`[a.b]`), or the root: `implicit` is false;
* a table only named on the way to a deeper header (`a` in `[a.b]`): `implicit`, and it may
  still get a header of its own;
* a table made by a dotted key (`a.b = 1` makes `a`): `implicit` and `dotted`;
* an inline table (`{ x = 1 }`), which is a value and closed once written.

An array of tables (`[[a]]`) is a list of header tables.
-/

namespace RobotProgram

namespace Toml

/-- A TOML value. -/
inductive Value where
  | string (start : Nat) (s : String)
  | integer (start : Nat) (n : Int)
  | float (start : Nat) (x : Float)
  | boolean (start : Nat) (b : Bool)
  | datetime (start : Nat) (text : String)
  | array (start : Nat) (items : List Value)
  | inlineTable (start : Nat) (dotted : Bool) (entries : List (String × Value))
  | table (start : Nat) (implicit dotted : Bool) (entries : List (String × Value))
  | tables (items : List Value)
deriving Inhabited

namespace Value

/-- Where a failure to use the value is reported: where its text (or the key naming it)
starts, and for an array of tables where its first table starts. -/
def start? : Value → Option Nat
  | .string s _ | .integer s _ | .float s _ | .boolean s _ | .datetime s _ | .array s _ => some s
  | .inlineTable s _ _ | .table s _ _ _ => some s
  | .tables (.table s _ _ _ :: _) => some s
  | .tables _ => none

/-- The name of the value's type in messages about extending it. -/
def typeName : Value → String
  | .string _ _ => "string"
  | .integer _ _ => "integer"
  | .float _ _ => "float"
  | .boolean _ _ => "boolean"
  | .datetime _ _ => "datetime"
  | .array _ _ => "array"
  | .inlineTable _ _ _ => "inline table"
  | .table _ _ _ _ => "table"
  | .tables _ => "array of tables"

/-- The entries of a table of either kind. -/
def entries? : Value → Option (List (String × Value))
  | .inlineTable _ _ es | .table _ _ _ es => some es
  | _ => none

end Value

end Toml

end RobotProgram
