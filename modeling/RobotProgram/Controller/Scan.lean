import RobotProgram.Text.Blank
import RobotProgram.Text.Word
/-!
# RobotProgram.Controller.Scan

How a controller reads a module it loads: its name, and the data it declares.

The name follows the first `MODULE` keyword that opens a line (blank lines and leading blanks
allowed), separated from it by blanks. The module must contain `ENDMODULE` somewhere.

A declaration opens a line and reads

    [LOCAL | TASK] (CONST | VAR | PERS) <type> <name> [:= <value>] ;

with blanks (line breaks included) between the words, upper-case keywords only, and names
made of word characters. The value runs on the same line up to the first `;` after which only
blanks follow until a line break or the end of the text; it is trimmed, and empty when there
is no `:=`. `LOCAL TASK VAR` is no declaration. A declaration may span lines; the lines it
spans are not searched again, and the search goes on at the line after the last line break
that follows its `;`.
-/

-- Infix tests use the list library's own decision, whatever other instances are in scope.
attribute [local instance (high)] List.instDecidableIsInfixOfDecidableEq

namespace RobotProgram

/-- A data item a controller holds: its module, name, type and value text. -/
structure DataItem where
  module : String
  name : String
  dataType : String
  value : String
deriving Repr, DecidableEq, Inhabited

/-- A module a controller has loaded: its name and its data, in declaration order. -/
structure LoadedModule where
  name : String
  data : List DataItem
deriving Repr, DecidableEq, Inhabited

namespace Scan

open Text

/-- The text starts with the given word. -/
def startsWith (cs : List Char) (word : String) : Option (List Char) :=
  let w := word.toList
  if cs.take w.length == w then some (cs.drop w.length) else none

/-- At least one blank, then the rest. -/
def blanks1 (cs : List Char) : Option (List Char) :=
  match cs with
  | c :: _ => if isBlank c then some (cs.dropWhile isBlank) else none
  | [] => none

/-- A non-empty run of word characters, then the rest. -/
def word1 (cs : List Char) : Option (String × List Char) :=
  let w := cs.takeWhile isWord
  if w.isEmpty then none else some (String.ofList w, cs.dropWhile isWord)

/-- The module name after `MODULE` at this line start, if any. -/
def headerAt (cs : List Char) : Option String := do
  let r ← startsWith (cs.dropWhile isBlank) "MODULE"
  let r ← blanks1 r
  let (name, _) ← word1 r
  pure name

/-- The suffixes of a text that start a line: the text itself, and what follows each line
break. -/
def lineStarts (cs : List Char) : List (List Char) :=
  cs :: afterBreaks cs
where
  afterBreaks : List Char → List (List Char)
    | [] => []
    | c :: rest => if c = '\n' then rest :: afterBreaks rest else afterBreaks rest

/-- What follows the next line break, if there is one. -/
def nextLine (cs : List Char) : Option (List Char) :=
  match cs.dropWhile (· != '\n') with
  | _ :: rest => some rest
  | [] => none

/-- After a `;`, only blanks may follow up to a line break or the end of the text. -/
def endsLine (t : List Char) : Bool :=
  (t.takeWhile isBlank).contains '\n' || (t.dropWhile isBlank).isEmpty

/-- Where the search resumes after a `;` that ends a declaration: the end of the text when only
blanks follow, else the line after the last line break among the blanks. -/
def resumeAfter (t : List Char) : List Char :=
  if (t.dropWhile isBlank).isEmpty then []
  else
    let run := t.takeWhile isBlank
    match (run.zipIdx.filter (·.1 == '\n')).getLast? with
    | some (_, i) => t.drop (i + 1)
    | none => t

/-- The value after `:=`: the characters of the line up to the first `;` that ends the line,
and what follows that `;`. -/
def findValue (acc : List Char) : List Char → Option (List Char × List Char)
  | [] => none
  | c :: t =>
    if c = '\n' then none
    else if c = ';' ∧ endsLine t then some (acc.reverse, t)
    else findValue (c :: acc) t

/-- A declaration starting at this line start: its type, name and value, and where the search
resumes. -/
def declarationAt (cs : List Char) : Option ((String × String × String) × List Char) := do
  let r := cs.dropWhile isBlank
  let r ← match startsWith r "LOCAL" <|> startsWith r "TASK" with
    | some afterPrefix => blanks1 afterPrefix
    | none => pure r
  let r ← startsWith r "CONST" <|> startsWith r "VAR" <|> startsWith r "PERS"
  let r ← blanks1 r
  let (dataType, r) ← word1 r
  let r ← blanks1 r
  let (name, r) ← word1 r
  let r := r.dropWhile isBlank
  match startsWith r ":=" with
  | some afterAssign =>
    let (value, t) ← findValue [] (afterAssign.dropWhile isBlank)
    pure ((dataType, name, trimBlank (String.ofList value)), resumeAfter t)
  | none =>
    match r with
    | ';' :: t => if endsLine t then pure ((dataType, name, ""), resumeAfter t) else none
    | _ => none

/-- The declarations of a text read from a line start, in order. -/
def declarations (cs : List Char) : List (String × String × String) :=
  match declarationAt cs with
  | some (d, next) => if next.length < cs.length then d :: declarations next else [d]
  | none =>
    match h : nextLine cs with
    | some rest =>
      have : rest.length < cs.length := by
        unfold nextLine at h
        split at h
        · rename_i x rest' hx
          cases h
          have := (List.dropWhile_suffix (fun c => c != '\n') (l := cs)).sublist.length_le
          rw [hx] at this
          simp only [List.length_cons] at this
          omega
        · cases h
      declarations rest
    | none => []
termination_by cs.length

end Scan

/-- Reads a module's name and data, or says why it cannot be loaded. -/
def scanModule (text : String) : Except String LoadedModule :=
  let cs := text.toList
  match (Scan.lineStarts cs).findSome? Scan.headerAt with
  | none => .error "missing MODULE header"
  | some name =>
    if "ENDMODULE".toList <:+: cs then
      .ok ⟨name, (Scan.declarations cs).map fun (dataType, itemName, value) =>
        { module := name, name := itemName, dataType, value }⟩
    else .error s!"module '{name}' is not terminated"

end RobotProgram
