import RobotProgram.Toml.Value
import RobotProgram.Toml.Error
import RobotProgram.Decimal.Reading
/-!
# RobotProgram.Toml.Lexical

The pieces of TOML text that hold no other values: blanks, comments, line ends, keys, strings,
numbers, booleans and dates.

Each reader starts at a `Cursor` (the characters left and the byte offset of the first) and
returns what it read with the cursor after it, or a `SyntaxError`. A failure is `committed`
once the reader has seen enough to know what it reads (an opening quote, a `0x`); an
uncommitted failure lets the caller try something else.

The rules follow TOML 1.0:

* blanks are space and tab; a line ends with LF or CR LF; a comment runs from `#` to the end of
  the line and holds no control character but tab;
* a bare key is ASCII letters, digits, `_` and `-`; a key may also be a quoted string, and keys
  join with `.` into a dotted key;
* basic strings take the escapes `\b \t \n \f \r \" \\ \uXXXX \UXXXXXXXX`; literal strings take
  none; the triple-quoted forms may span lines, drop a newline right after the opening quotes,
  and (basic only) join lines at a backslash that ends a line;
* an integer is decimal with an optional sign, or `0x`, `0o`, `0b` with digits of that base,
  underscores only between digits, no leading zero, and within 64 signed bits;
* a float has a fraction or an exponent or both, or is `inf` or `nan` with an optional sign;
  one whose value overflows to positive infinity is refused;
* a date-time is a date, a time, or both joined by `T`, `t` or a space, with an optional
  offset `Z` or `±hh:mm`.
-/

-- Powers are `Nat.pow` and `Int.pow` themselves, whatever algebraic instances are in scope.
attribute [local instance (high)] instPowNat

namespace RobotProgram

namespace Toml

/-- A place in a text: the characters left and the byte offset of the first of them. -/
structure Cursor where
  rest : List Char
  pos : Nat
deriving Inhabited

/-- Splits off the longest prefix whose characters satisfy `p`, counting its bytes from `n`. -/
def spanChars (p : Char → Bool) : List Char → Nat → List Char × List Char × Nat
  | [], n => ([], [], n)
  | x :: r, n =>
    if p x then
      let (t, d, m) := spanChars p r (n + x.utf8Size)
      (x :: t, d, m)
    else ([], x :: r, n)

namespace Cursor

/-- The place after one character. -/
def advance (c : Cursor) : Cursor :=
  match c.rest with
  | [] => c
  | x :: r => ⟨r, c.pos + x.utf8Size⟩

/-- The place after `n` characters. -/
def advanceBy : Nat → Cursor → Cursor
  | 0, c => c
  | n + 1, c => advanceBy n c.advance

/-- The characters satisfying `p` from here on, and the place after them. -/
def span (p : Char → Bool) (c : Cursor) : List Char × Cursor :=
  let (t, d, m) := spanChars p c.rest c.pos
  (t, ⟨d, m⟩)

/-- The next character. -/
def peek? (c : Cursor) : Option Char := c.rest.head?

/-- The text continues with `s`. -/
def startsWith (c : Cursor) (s : String) : Bool := s.toList.isPrefixOf c.rest

/-- Nothing is left. -/
def atEnd (c : Cursor) : Bool := c.rest.isEmpty

end Cursor

/-- A failure at a place, with nothing known about it yet. -/
def failAt (c : Cursor) : SyntaxError := { offset := some c.pos }

/-! ## Blanks, comments and line ends -/

/-- Space or tab. -/
def isBlankChar (x : Char) : Bool := x == ' ' || x == '\t'

/-- A character a comment may hold: tab, printable ASCII, or any non-ASCII character. -/
def isCommentChar (x : Char) : Bool :=
  x == '\t' || (' ' ≤ x && x ≤ '~') || x.toNat ≥ 0x80

/-- Skips blanks. -/
def skipBlanks (c : Cursor) : Cursor := (c.span isBlankChar).2

/-- Skips a comment, if one starts here. -/
def skipComment (c : Cursor) : Cursor :=
  if c.peek? == some '#' then (c.advance.span isCommentChar).2 else c

/-- The place after a line end, if one is here. -/
def newline? (c : Cursor) : Option Cursor :=
  match c.rest with
  | '\n' :: _ => some c.advance
  | '\r' :: '\n' :: _ => some (c.advanceBy 2)
  | _ => none

/-- The end of a line after a key-value pair or header: blanks, a comment, then a line end or
the end of the text. -/
def lineEnd (c : Cursor) : Except SyntaxError Cursor :=
  let c := skipComment (skipBlanks c)
  if c.atEnd then .ok c
  else match newline? c with
    | some c' => .ok c'
    | none => .error { failAt c with expected := ["newline", "`#`"], committed := true }

/-- Skips blanks, comments and line ends, as between the items of an array. -/
def skipTrivia (c : Cursor) : Cursor :=
  let c1 := skipComment (skipBlanks c)
  match newline? c1 with
  | some c2 => if c2.rest.length < c.rest.length then skipTrivia c2 else c2
  | none => c1
termination_by c.rest.length

/-! ## Strings -/

/-- A character a basic string holds as itself. -/
def isBasicChar (x : Char) : Bool :=
  x == ' ' || x == '\t' || x == '!' || ('#' ≤ x && x ≤ '[') || (']' ≤ x && x ≤ '~') ||
    x.toNat ≥ 0x80

/-- A character a literal string may hold. -/
def isLiteralChar (x : Char) : Bool :=
  x == '\t' || (' ' ≤ x && x ≤ '&') || ('(' ≤ x && x ≤ '~') || x.toNat ≥ 0x80

/-- The value of a hexadecimal digit. -/
def hexValue? (x : Char) : Option Nat :=
  if '0' ≤ x && x ≤ '9' then some (x.toNat - '0'.toNat)
  else if 'a' ≤ x && x ≤ 'f' then some (x.toNat - 'a'.toNat + 10)
  else if 'A' ≤ x && x ≤ 'F' then some (x.toNat - 'A'.toNat + 10)
  else none

/-- The character of a `\u` or `\U` escape: exactly `n` hexadecimal digits naming a Unicode
scalar value. `c` is just after the `u`. -/
def hexEscape (n : Nat) (label : String) (c : Cursor) : Except SyntaxError (Char × Cursor) :=
  let digits := (c.rest.take n).filterMap hexValue?
  let fail : SyntaxError := { failAt c with label := some label, committed := true }
  if digits.length < n || (c.rest.take n).length < n then .error fail
  else
    let v := digits.foldl (fun acc d => 16 * acc + d) 0
    if v < 0xD800 || (0xDFFF < v && v ≤ 0x10FFFF) then .ok (Char.ofNat v, c.advanceBy n)
    else .error { fail with cause := some "value is out of range" }

/-- The character an escape stands for; `c` is just after the backslash. At the end of the text
nothing is committed. -/
def escape (c : Cursor) : Except SyntaxError (Char × Cursor) :=
  match c.rest with
  | 'b' :: _ => .ok ('\x08', c.advance)
  | 'f' :: _ => .ok ('\x0c', c.advance)
  | 'n' :: _ => .ok ('\n', c.advance)
  | 'r' :: _ => .ok ('\r', c.advance)
  | 't' :: _ => .ok ('\t', c.advance)
  | '\\' :: _ => .ok ('\\', c.advance)
  | '"' :: _ => .ok ('"', c.advance)
  | 'u' :: _ => hexEscape 4 "unicode 4-digit hex code" c.advance
  | 'U' :: _ => hexEscape 8 "unicode 8-digit hex code" c.advance
  | _ :: _ =>
    let expected := ["`b`", "`f`", "`n`", "`r`", "`t`", "`u`", "`U`", "`\\`", "`\"`"]
    .error { failAt c.advance with label := some "escape sequence", committed := true, expected }
  | [] => .error (failAt c)

/-- The body of a basic string up to its closing quote; `c` is just after the opening one. -/
def basicBody (acc : List Char) (c : Cursor) : Except SyntaxError (String × Cursor) :=
  let (run, c1) := c.span isBasicChar
  let unclosed : SyntaxError := { failAt c1 with label := some "basic string", committed := true }
  match c1.rest with
  | '"' :: _ => .ok (String.ofList (acc ++ run), c1.advance)
  | '\\' :: _ =>
    match escape c1.advance with
    | .ok (x, c2) =>
      if c2.rest.length < c.rest.length then basicBody (acc ++ run ++ [x]) c2 else .error unclosed
    | .error e => .error (if e.committed then e else unclosed)
  | _ => .error unclosed
termination_by c.rest.length

/-- A string between `"`; `c` is at the opening quote. -/
def basicString (c : Cursor) : Except SyntaxError (String × Cursor) :=
  basicBody [] c.advance

/-- A string between `'`; `c` is at the opening quote. -/
def literalString (c : Cursor) : Except SyntaxError (String × Cursor) :=
  let (run, c1) := c.advance.span isLiteralChar
  if c1.peek? == some '\'' then .ok (String.ofList run, c1.advance)
  else .error { failAt c1 with label := some "literal string", committed := true }

/-- How many of the next characters are `q`. -/
def countRun (q : Char) : List Char → Nat
  | x :: r => if x == q then countRun q r + 1 else 0
  | [] => 0

/-- A backslash at the end of a line in a multi-line basic string: the blanks, line ends and
blanks after it are dropped. `c` is just after the backslash. -/
def lineJoin? (c : Cursor) : Option Cursor :=
  let c1 := skipBlanks c
  match newline? c1 with
  | some c2 => some (skipBlankLines c2)
  | none => none
where
  /-- Skips blanks and line ends. -/
  skipBlankLines (c : Cursor) : Cursor :=
    let c1 := skipBlanks c
    match newline? c1 with
    | some c2 => if c2.rest.length < c.rest.length then skipBlankLines c2 else c2
    | none => c1
  termination_by c.rest.length

/-- The body of a multi-line string with delimiter `q` (three of them close it), after the
opening delimiter and its optional newline. Up to two delimiter characters may stand right
before the closing ones. `basic` strings take escapes and line joins. -/
def multiBody (q : Char) (basic : Bool) (label : String) (acc : List Char) (c : Cursor) :
    Except SyntaxError (String × Cursor) :=
  let plain : Char → Bool := if basic then isBasicChar else isLiteralChar
  let (run, c1) := c.span fun x => plain x && x != q
  let acc := acc ++ run
  let unclosed : SyntaxError := { failAt c1 with label := some label, committed := true }
  let next (extra : List Char) (c2 : Cursor) : Except SyntaxError (String × Cursor) :=
    if c2.rest.length < c.rest.length then multiBody q basic label (acc ++ extra) c2
    else .error unclosed
  match c1.rest with
  | x :: _ =>
    if x == q then
      let k := countRun q c1.rest
      if k ≥ 3 then
        let extra := min (k - 3) 2
        .ok (String.ofList (acc ++ List.replicate extra q), c1.advanceBy (extra + 3))
      else if (c1.rest.drop k).isEmpty then .error { unclosed with offset := some (c1.advanceBy k).pos }
      else next (List.replicate k q) (c1.advanceBy k)
    else if x == '\n' || x == '\r' then
      match newline? c1 with
      | some c2 => next ['\n'] c2
      | none => .error unclosed
    else if basic && x == '\\' then
      match lineJoin? c1.advance with
      | some c2 => next [] c2
      | none =>
        match escape c1.advance with
        | .ok (e, c2) => next [e] c2
        | .error e => .error (if e.committed then e else unclosed)
    else .error unclosed
  | [] => .error unclosed
termination_by c.rest.length

/-- A multi-line string; `c` is at the first of its three opening delimiters. -/
def multiString (q : Char) (basic : Bool) (label : String) (c : Cursor) :
    Except SyntaxError (String × Cursor) :=
  let c1 := c.advanceBy 3
  multiBody q basic label [] ((newline? c1).getD c1)

/-! ## Keys -/

/-- A character of a bare key. -/
def isBareKeyChar (x : Char) : Bool := x.isAlphanum || x == '_' || x == '-'

/-- One key: bare or quoted. -/
def simpleKey (c : Cursor) : Except SyntaxError (String × Cursor) :=
  match c.rest with
  | '"' :: _ => basicString c
  | '\'' :: _ => literalString c
  | _ =>
    let (t, c1) := c.span isBareKeyChar
    if t.isEmpty then .error { failAt c with label := some "key" } else .ok (String.ofList t, c1)

/-- The parts of a dotted key, each with the offset where its text starts. -/
abbrev KeyPath := List (String × Nat)

/-- The names of a key path. -/
def KeyPath.names (path : KeyPath) : List String := path.map (·.1)

/-- The parts after the first of a dotted key; `c` is after a part and its blanks. A dot not
followed by a key is left for the caller. -/
def keyParts (acc : KeyPath) (c : Cursor) : Except SyntaxError (KeyPath × Cursor) :=
  match c.rest with
  | '.' :: _ =>
    let c0 := skipBlanks c.advance
    match simpleKey c0 with
    | .ok (k, c1) =>
      let c2 := skipBlanks c1
      if c2.rest.length < c.rest.length then keyParts (acc ++ [(k, c0.pos)]) c2 else .ok (acc, c)
    | .error e => if e.committed then .error e else .ok (acc, c)
  | _ => .ok (acc, c)
termination_by c.rest.length

/-- A dotted key with the blanks around its parts. -/
def dottedKey (c : Cursor) : Except SyntaxError (KeyPath × Cursor) := do
  let c0 := skipBlanks c
  let (k, c1) ← simpleKey c0
  keyParts [(k, c0.pos)] (skipBlanks c1)

/-! ## Numbers, booleans and dates -/

/-- An ASCII digit. -/
def isDigitChar (x : Char) : Bool := '0' ≤ x && x ≤ '9'

/-- Digits of a kind, with single underscores between them; `c` is at the first digit. An
underscore not followed by a digit is a committed failure labelled `label`, expecting what
`expected` says. -/
def digitGroups (isDigit : Char → Bool) (label : String) (expected : List String)
    (acc : List Char) (c : Cursor) : Except SyntaxError (List Char × Cursor) :=
  let (run, c1) := c.span isDigit
  let acc := acc ++ run
  match c1.rest with
  | '_' :: _ =>
    let c2 := c1.advance
    let fail : SyntaxError := { failAt c2 with label := some label, expected, committed := true }
    match c2.peek? with
    | some x =>
      if isDigit x then
        if c2.rest.length < c.rest.length then digitGroups isDigit label expected acc c2
        else .error fail
      else .error fail
    | none => .error fail
  | _ => .ok (acc, c1)
termination_by c.rest.length

/-- Largest value of a 64-bit signed integer. -/
def int64Max : Nat := 2 ^ (63 : Nat) - 1

/-- Exactly `n` digits and their value. -/
def fixedDigits (n : Nat) (c : Cursor) : Option (Nat × Cursor) :=
  let ds := c.rest.take n
  if ds.length = n && ds.all isDigitChar then
    some (ds.foldl (fun acc x => 10 * acc + (x.toNat - '0'.toNat)) 0, c.advanceBy n)
  else none

/-- The cause given for a date or time field beyond its range. -/
def outOfRange : String := "value is out of range"

/-- The number of days in a month of a year, leap years counted. -/
def daysInMonth (year month : Nat) : Nat :=
  if month = 2 then (if year % 4 = 0 ∧ (year % 100 ≠ 0 ∨ year % 400 = 0) then 29 else 28)
  else if month = 4 ∨ month = 6 ∨ month = 9 ∨ month = 11 then 30
  else 31

/-- `hh:mm:ss` with an optional fraction, if the text here starts with an hour (00 to 23) and a
colon. After that a failure is committed and labelled `label`: a missing field or colon where
it is missing, a minute past 59 or a second past 60 where that field starts. A dot without
digits after it is no fraction, and is left unread. -/
def partialTime? (label : String) (c : Cursor) : Option (Except SyntaxError Cursor) := do
  let (h, c1) ← fixedDigits 2 c
  if h > 23 then none
  if c1.peek? != some ':' then none
  let fail (p : Cursor) : SyntaxError := { failAt p with label := some label, committed := true }
  let c2 := c1.advance
  some <| match fixedDigits 2 c2 with
    | none => .error (fail c2)
    | some (m, c3) =>
      if m > 59 then .error { fail c2 with cause := some outOfRange }
      else if c3.peek? != some ':' then .error (fail c3)
      else
        let c4 := c3.advance
        match fixedDigits 2 c4 with
        | none => .error (fail c4)
        | some (sec, c5) =>
          if sec > 60 then .error { fail c4 with cause := some outOfRange }
          else if c5.peek? == some '.' then
            let (frac, c6) := c5.advance.span isDigitChar
            if frac.isEmpty then .ok c5 else .ok c6
          else .ok c5

/-- An offset `Z` or `±hh:mm` after a time, if one is there; after the sign a failure is
committed, at the field that is missing or beyond its range. -/
def timeOffset (c : Cursor) : Except SyntaxError Cursor :=
  match c.rest with
  | 'Z' :: _ | 'z' :: _ => .ok c.advance
  | '+' :: _ | '-' :: _ =>
    let fail (p : Cursor) : SyntaxError :=
      { failAt p with label := some "time offset", committed := true }
    let c1 := c.advance
    match fixedDigits 2 c1 with
    | none => .error (fail c1)
    | some (h, c2) =>
      if h > 23 then .error { fail c1 with cause := some outOfRange }
      else if c2.peek? != some ':' then .error (fail c2)
      else
        let c3 := c2.advance
        match fixedDigits 2 c3 with
        | none => .error (fail c3)
        | some (m, c4) =>
          if m > 59 then .error { fail c3 with cause := some outOfRange } else .ok c4
  | _ => .ok c

/-- A date, a time, or a date and a time, if the text here has that shape. A date is
committed once its year and dash are read; a month outside 1 to 12 or a day past the end of
its month fails where that field starts. A time that does not follow a date's delimiter
leaves the date alone. -/
def dateTime? (c : Cursor) : Option (Except SyntaxError Cursor) :=
  match fixedDigits 4 c with
  | some (y, c1) =>
    if c1.peek? == some '-' then
      let fail (p : Cursor) : SyntaxError :=
        { failAt p with label := some "date-time", committed := true }
      let c2 := c1.advance
      some <| match fixedDigits 2 c2 with
        | none => .error (fail c2)
        | some (mo, c3) =>
          if mo < 1 || mo > 12 then .error { fail c2 with cause := some outOfRange }
          else if c3.peek? != some '-' then .error (fail c3)
          else
            let c4 := c3.advance
            match fixedDigits 2 c4 with
            | none => .error (fail c4)
            | some (d, c5) =>
              if d < 1 || d > daysInMonth y mo then .error { fail c4 with cause := some outOfRange }
              else match c5.peek? with
                | some 'T' | some 't' | some ' ' =>
                  match partialTime? "date-time" c5.advance with
                  | some (.ok c6) => timeOffset c6
                  | some (.error e) => .error e
                  | none => .ok c5
                | _ => .ok c5
    else partialTime? "time" c
  | none => partialTime? "time" c

/-- The cause given for an integer above 64 signed bits. -/
def tooLarge : String := "number too large to fit in target type"

/-- The cause given for an integer below 64 signed bits. -/
def tooSmall : String := "number too small to fit in target type"

/-- A number or date-time; `c` is at a sign or a digit. -/
def number (c : Cursor) : Except SyntaxError (Value × Cursor) :=
  match dateTime? c with
  | some (.ok c1) =>
    .ok (.datetime c.pos (String.ofList (c.rest.take (c.rest.length - c1.rest.length))), c1)
  | some (.error e) => .error e
  | none =>
    let (sign, c1) := match c.rest with
      | '+' :: _ => (1, c.advance)
      | '-' :: _ => (-1, c.advance)
      | _ => (0, c)
    let negative := sign == (-1 : Int)
    if c1.startsWith "inf" then
      .ok (.float c.pos (if negative then -Decimal.infinity else Decimal.infinity), c1.advanceBy 3)
    else if c1.startsWith "nan" then
      .ok (.float c.pos (if negative then -Decimal.notANumber else Decimal.notANumber),
        c1.advanceBy 3)
    else if sign == 0 && (c.startsWith "0x" || c.startsWith "0o" || c.startsWith "0b") then
      let (base, isDigit, label) : Nat × (Char → Bool) × String :=
        if c.startsWith "0x" then (16, fun x => (hexValue? x).isSome, "hexadecimal integer")
        else if c.startsWith "0o" then (8, fun x => '0' ≤ x && x ≤ '7', "octal integer")
        else (2, fun x => x == '0' || x == '1', "binary integer")
      let c2 := c.advanceBy 2
      match c2.peek? with
      | some x =>
        if isDigit x then
          match digitGroups isDigit label ["digit"] [] c2 with
          | .ok (ds, c3) =>
            let v := ds.foldl (fun acc d => base * acc + ((hexValue? d).getD 0)) 0
            if v > int64Max then .error { failAt c with committed := true, cause := some tooLarge }
            else .ok (.integer c.pos v, c3)
          | .error e => .error e
        else .error { failAt c2 with label := some label, committed := true }
      | none => .error { failAt c2 with label := some label, committed := true }
    else
      match c1.peek? with
      | some x =>
        if !isDigitChar x then .error { failAt c1 with label := some "integer" }
        else
          let whole : Except SyntaxError (List Char × Cursor) :=
            if x == '0' then .ok (['0'], c1.advance) else digitGroups isDigitChar "integer" ["digit"] [] c1
          match whole with
          | .error e => .error e
          | .ok (intDigits, c2) =>
            let floatFail : SyntaxError :=
              { failAt c with label := some "floating-point number", committed := true }
            let fraction : Except SyntaxError (Option (List Char) × Cursor) :=
              if c2.peek? == some '.' then
                match c2.advance.peek? with
                | some y =>
                  if isDigitChar y then
                    match digitGroups isDigitChar "floating-point number" ["digit", "digit"] []
                        c2.advance with
                    | .ok (fs, c3) => .ok (some fs, c3)
                    | .error e => .error e
                  else .error { floatFail with offset := some c2.advance.pos, expected := ["digit"] }
                | none => .error { floatFail with offset := some c2.advance.pos, expected := ["digit"] }
              else .ok (none, c2)
            match fraction with
            | .error e => .error e
            | .ok (frac, c3) =>
              let exponent : Except SyntaxError (Option (List Char) × Cursor) :=
                if c3.peek? == some 'e' || c3.peek? == some 'E' then
                  let (esign, c4) := match c3.advance.rest with
                    | '+' :: _ => (['+'], c3.advance.advance)
                    | '-' :: _ => (['-'], c3.advance.advance)
                    | _ => ([], c3.advance)
                  match c4.peek? with
                  | some y =>
                    if isDigitChar y then
                      match digitGroups isDigitChar "floating-point number" ["digit"] [] c4 with
                      | .ok (es, c5) => .ok (some (esign ++ es), c5)
                      | .error e => .error e
                    else .error { floatFail with offset := some c4.pos }
                  | none => .error { floatFail with offset := some c4.pos }
                else .ok (none, c3)
              match exponent with
              | .error e => .error e
              | .ok (exp, c4) =>
                if frac.isNone && exp.isNone then
                  let v := intDigits.foldl (fun acc d => 10 * acc + (d.toNat - '0'.toNat)) 0
                  if v > int64Max + (if negative then 1 else 0) then
                    let cause := if negative then tooSmall else tooLarge
                    .error { failAt c with committed := true, cause := some cause }
                  else .ok (.integer c.pos (if negative then -(v : Int) else v), c4)
                else
                  let text := String.ofList (intDigits ++
                    (match frac with | some fs => '.' :: fs | none => []) ++
                    (match exp with | some es => 'e' :: es | none => []))
                  match readFloat? text with
                  | some x =>
                    let x := if negative then -x else x
                    if x == Decimal.infinity then .error floatFail else .ok (.float c.pos x, c4)
                  | none => .error floatFail
      | none => .error { failAt c1 with label := some "integer" }

/-- A value spelled with a word: `true`, `false`, `inf`, `nan`. Anything else starting with
their first letters is read as a misspelt string. -/
def word (c : Cursor) : Except SyntaxError (Value × Cursor) :=
  let asString : SyntaxError :=
    { failAt c with label := some "string", expected := ["`\"`", "`'`"], committed := true }
  if c.startsWith "true" then .ok (.boolean c.pos true, c.advanceBy 4)
  else if c.startsWith "false" then .ok (.boolean c.pos false, c.advanceBy 5)
  else if c.startsWith "inf" then .ok (.float c.pos Decimal.infinity, c.advanceBy 3)
  else if c.startsWith "nan" then .ok (.float c.pos Decimal.notANumber, c.advanceBy 3)
  else .error asString

end Toml

end RobotProgram
