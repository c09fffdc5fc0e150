import RobotProgram.Decimal.Layout
/-!
# RobotProgram.Toml.Print

Writing a document of tables of plain values as TOML text, in the layout of a pretty printer:
one `[name]` header per table, tables separated by a blank line, one `key = value` line per
entry, and arrays of two or more items spread over lines with four spaces of indent and a comma
after every item.

A string is written as a literal string (`'...'`) when it holds a backslash and can be written
that way: no control character but tab, no run of three `'`, and no `'` at its end (a single
`'` turns it into `'''...'''`). Otherwise it is a basic string with escapes. A string with a
line feed is written over lines between triple quotes, starting on the next line.

A float is written with the fewest digits that read back, positionally, with `.0` when
integral; `nan`, `inf`, `-inf` and `-0.0` are spelt so.
-/

namespace RobotProgram

namespace Toml

/-- How a string is quoted. -/
inductive Quoting where
  | single
  | triple
  | multiline
deriving DecidableEq

/-- The quoting a string gets, and whether it is literal (no escapes). -/
def quotingOf (s : String) : Quoting × Bool :=
  let step := fun (st : Quoting × Nat × Nat × Bool × Bool) (ch : Char) =>
    let (ty, maxRun, run, preferLiteral, pretty) := st
    if pretty then
      let (maxRun, run, pretty) :=
        if ch == '\'' then (maxRun, run + 1, decide (run + 1 < 3)) else (max maxRun run, 0, true)
      let ty := if ch == '\n' then Quoting.multiline else ty
      let preferLiteral := preferLiteral || ch == '\\'
      let pretty := pretty && (ch == '\t' || ch == '\n' || ch.toNat > 0x1f)
      (ty, maxRun, run, preferLiteral, pretty)
    else
      ((if ch == '\n' then Quoting.multiline else ty), maxRun, run, preferLiteral, pretty)
  let (ty, maxRun, run, preferLiteral, pretty) :=
    s.toList.foldl step (Quoting.single, 0, 0, false, true)
  let pretty := pretty && !(run > 0 && s.endsWith "'") && preferLiteral
  if !pretty then (ty, false)
  else if ty == .single && max maxRun run ≥ 1 then (.triple, true)
  else (ty, true)

/-- Four uppercase hexadecimal digits. -/
def hex4 (n : Nat) : String :=
  let digits := Nat.toDigits 16 n
  String.ofList ((List.replicate (4 - digits.length) '0' ++ digits).map Char.toUpper)

/-- A character of a basic string, escaped as needed. -/
def escapeBasic (multiline : Bool) (ch : Char) : String :=
  if ch == '\x08' then "\\b"
  else if ch == '\t' then "\\t"
  else if ch == '\n' then (if multiline then "\n" else "\\n")
  else if ch == '\x0c' then "\\f"
  else if ch == '\r' then "\\r"
  else if ch == '"' then "\\\""
  else if ch == '\\' then "\\\\"
  else if ch.toNat ≤ 0x1f || ch.toNat == 0x7f then "\\u" ++ hex4 ch.toNat
  else String.singleton ch

/-- The TOML text of a string. -/
def stringText (s : String) : String :=
  match quotingOf s with
  | (.multiline, true) => "'''\n" ++ s ++ "'''"
  | (.triple, true) => "'''" ++ s ++ "'''"
  | (_, true) => "'" ++ s ++ "'"
  | (q, false) =>
    let multiline := q == .multiline
    (if multiline then "\"\"\"\n" else "\"") ++ String.join (s.toList.map (escapeBasic multiline)) ++
      (if multiline then "\"\"\"" else "\"")

/-- The TOML text of a float. -/
def floatText (x : Float) : String :=
  if x.isNaN then (if x.toBits >>> 63 == 1 then "-nan" else "nan")
  else if x == 0 then (if x.toBits >>> 63 == 1 then "-0.0" else "0.0")
  else if x.isFinite && x.floor == x then Layout.plainText x ++ ".0"
  else Layout.plainText x

/-- A value of a printed table. -/
inductive Entry where
  | text (s : String)
  | natural (n : Nat)
  | floats (xs : List Float)

/-- The text of a value. -/
def Entry.render : Entry → String
  | .text s => stringText s
  | .natural n => toString n
  | .floats [] => "[]"
  | .floats [x] => "[" ++ floatText x ++ "]"
  | .floats xs => "[" ++ String.join (xs.map fun x => "\n    " ++ floatText x ++ ",") ++ "\n]"

/-- A table to print: its name and entries. -/
structure Table where
  name : String
  entries : List (String × Entry)

/-- The text of tables, in order. -/
def render (tables : List Table) : String :=
  "\n".intercalate (tables.map fun t =>
    "[" ++ t.name ++ "]\n" ++ String.join (t.entries.map fun (k, v) => k ++ " = " ++ v.render ++ "\n"))

end Toml

end RobotProgram
