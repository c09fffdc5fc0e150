/-!
# RobotProgram.Toml.Error

Why a TOML text could not be read, and how such a failure is reported.

A syntax failure has a byte offset and a message of up to three lines: what was being read
(`invalid basic string`), what would have been accepted there (``expected `.`, `=` ``), and a
further cause. A failure found only after the whole text was read has no offset.

The report of a failure with an offset names its line and column, both counted from one, then
shows the line with a caret under the offending place:

    TOML parse error at line 2, column 8
      |
    2 | name = cell-7
      |        ^
    invalid string
    expected `"`, `'`

The column counts characters from the start of the line up to the offset; when the offset
falls inside a multi-byte character it counts bytes instead. The carets cover the bytes of the
character at the offset.
-/

namespace RobotProgram

namespace Toml

/-- A rule of tables broken by a definition. -/
inductive TreeError where
  /-- A key defined twice; `table` names the table, or is absent when not told. -/
  | duplicateKey (key : String) (table : Option (List String))
  /-- A dotted key or header goes through a value that is not a table. -/
  | extendWrongType (path : List String) (actual : String)
deriving Repr, DecidableEq

/-- The text of a table rule broken. -/
def TreeError.message : TreeError → String
  | .duplicateKey key none => "duplicate key `" ++ key ++ "`"
  | .duplicateKey key (some []) => "duplicate key `" ++ key ++ "` in document root"
  | .duplicateKey key (some path) =>
    "duplicate key `" ++ key ++ "` in table `" ++ ".".intercalate path ++ "`"
  | .extendWrongType path actual =>
    "dotted key `" ++ ".".intercalate path ++ "` attempted to extend non-table type (" ++
      actual ++ ")"

/-- A failure to read a TOML text. -/
structure SyntaxError where
  /-- Byte offset of the failure; absent for a failure found after reading. -/
  offset : Option Nat
  /-- What was being read. -/
  label : Option String := none
  /-- What would have been accepted. -/
  expected : List String := []
  /-- A further cause. -/
  cause : Option String := none
  /-- The reader had committed to a reading: alternatives are not tried. -/
  committed : Bool := false
deriving Repr, Inhabited

namespace SyntaxError

/-- The message lines of a failure. -/
def message (e : SyntaxError) : String :=
  let lines := (e.label.map fun l => "invalid " ++ l).toList ++
    (if e.expected.isEmpty then [] else ["expected " ++ ", ".intercalate e.expected]) ++
    e.cause.toList
  "\n".intercalate lines

/-- The same failure, now committed. -/
def commit (e : SyntaxError) : SyntaxError := { e with committed := true }

/-- Adds a label unless one is there. -/
def withLabel (e : SyntaxError) (l : String) : SyntaxError :=
  { e with label := e.label.orElse fun _ => some l }

end SyntaxError

/-! ## Reporting -/

/-- Line and column (from zero) of a byte offset in a text. -/
def position (raw : String) (offset : Nat) : Nat × Nat :=
  let bytes := raw.toUTF8.toList
  if bytes.isEmpty then (0, offset)
  else
    let safe := min offset (bytes.length - 1)
    let beyond := offset - safe
    let before := bytes.take safe
    let lineStart := before.length - (before.reverse.takeWhile (· != 10)).length
    let line := (bytes.take lineStart).count 10
    let piece := (bytes.drop lineStart).take (safe - lineStart + 1)
    let column := match String.fromUTF8? (ByteArray.mk piece.toArray) with
      | some s => s.length - 1
      | none => safe - lineStart
    (line, column + beyond)

/-- The report of a failure at `start` (spanning `width` bytes) with the given message. -/
def report (raw : String) (start width : Nat) (message : String) : String :=
  let (line, column) := position raw start
  let lineNo := toString (line + 1)
  let gutter := String.ofList (List.replicate (lineNo.length + 1) ' ')
  let content := ((raw.splitOn "\n")[line]?).getD ""
  let carets := max 1 (min width (content.utf8ByteSize - column))
  "TOML parse error at line " ++ lineNo ++ ", column " ++ toString (column + 1) ++ "\n" ++
    gutter ++ "|\n" ++
    lineNo ++ " | " ++ content ++ "\n" ++
    gutter ++ "|" ++ String.ofList (List.replicate (column + 1) ' ') ++
      String.ofList (List.replicate carets '^') ++ "\n" ++
    message ++ "\n"

/-- The width in bytes of the character at a byte offset: up to the next character boundary,
or nothing at the end. -/
def charWidth (raw : String) (offset : Nat) : Nat :=
  let rest := raw.toUTF8.toList.drop offset
  match rest with
  | [] => 0
  | _ :: more => 1 + (more.takeWhile fun b => b.toNat / 64 = 2).length

/-- The report of a syntax failure in a text, spanning the character at its offset. -/
def SyntaxError.render (e : SyntaxError) (raw : String) : String :=
  match e.offset with
  | some o => report raw o (charWidth raw o) e.message
  | none => e.message ++ "\n"

end Toml

end RobotProgram
