/-!
# RobotProgram.Text.Json

JSON documents as written by the library: the job manifest of the command line and structured
answers. Object fields keep the order they are given in. Numbers are integers or finite floats;
a float is written by the caller's layout, so this module only quotes and nests.

Strings escape the quote, the backslash and every control character below U+0020; all other
characters are written as they are.
-/

namespace RobotProgram

/-- A JSON document. -/
inductive Json where
  | null
  | bool (value : Bool)
  | int (value : Int)
  /-- A number already laid out as JSON number text. -/
  | number (text : String)
  | str (value : String)
  | arr (items : List Json)
  | obj (fields : List (String × Json))
deriving Repr, Inhabited

namespace Json

/-- The four hexadecimal digits of a code unit below U+10000. -/
def hex4 (n : Nat) : String :=
  let ds := Nat.toDigits 16 n
  String.ofList (List.replicate (4 - ds.length) '0' ++ ds)

/-- How one character is written inside a JSON string. -/
def escapeChar (c : Char) : String :=
  if c = '"' then "\\\""
  else if c = '\\' then "\\\\"
  else if c = '\n' then "\\n"
  else if c = '\r' then "\\r"
  else if c = '\t' then "\\t"
  else if c = '\x08' then "\\b"
  else if c = '\x0C' then "\\f"
  else if c.toNat < 0x20 then "\\u" ++ hex4 c.toNat
  else String.singleton c

/-- A string quoted for JSON. -/
def quote (s : String) : String :=
  "\"" ++ String.join (s.toList.map escapeChar) ++ "\""

/-- The compact text of a document: no blanks between tokens. -/
def compact : Json → String
  | .null => "null"
  | .bool b => if b then "true" else "false"
  | .int n => toString n
  | .number text => text
  | .str s => quote s
  | .arr items => "[" ++ ",".intercalate (items.attach.map fun ⟨x, _⟩ => compact x) ++ "]"
  | .obj fields =>
    "\x7b" ++ ",".intercalate (fields.attach.map fun ⟨(k, v), h⟩ =>
      have : sizeOf v < 1 + sizeOf fields := by
        have := List.sizeOf_lt_of_mem h
        simp only [Prod.mk.sizeOf_spec] at this
        omega
      quote k ++ ":" ++ compact v) ++ "\x7d"

/-- The indented text of a document: two spaces a level, one item or field a line, and `[]` or
`{}` for an empty array or object. -/
def pretty (indent : Nat) : Json → String
  | .arr [] => "[]"
  | .obj [] => "\x7b\x7d"
  | .arr items =>
    let pad := String.ofList (List.replicate (indent + 2) ' ')
    "[\n" ++ ",\n".intercalate (items.attach.map fun ⟨x, _⟩ => pad ++ pretty (indent + 2) x) ++
      "\n" ++ String.ofList (List.replicate indent ' ') ++ "]"
  | .obj fields =>
    let pad := String.ofList (List.replicate (indent + 2) ' ')
    "\x7b\n" ++ ",\n".intercalate (fields.attach.map fun ⟨(k, v), h⟩ =>
      have : sizeOf v < 1 + sizeOf fields := by
        have := List.sizeOf_lt_of_mem h
        simp only [Prod.mk.sizeOf_spec] at this
        omega
      pad ++ quote k ++ ": " ++ pretty (indent + 2) v) ++
      "\n" ++ String.ofList (List.replicate indent ' ') ++ "\x7d"
  | other => compact other

end Json

end RobotProgram
