import RobotProgram.Literal.Basic
import RobotProgram.Decimal.Reading
import RobotProgram.Text.Blank
import RobotProgram.Error
/-!
# RobotProgram.Literal.Reader

Reading a bracket literal. The whole text is trimmed of blanks and may end in one `;`; what is
left, the body, must be one value followed only by ASCII blanks:

    value  ::= blank* ( list | string | scalar )
    list   ::= "[" blank* "]" | "[" value blank* ( "," value blank* )* "]"
    string ::= '"' (any character but '"')* '"'
    scalar ::= the longest run of characters other than ",", "[", "]", which, trimmed of
               blanks, is TRUE, FALSE or a number (`readFloat?`)

A scalar starts at any character other than `[` and `"`, and may hold spaces and quotes.
Errors name the body and the byte offset where reading stopped; text after a complete value
is reported against the whole text as trailing characters.

Each reading step returns the rest of the input with a proof that it is shorter, so reading
ends on every input by well-founded recursion on the length.
-/

namespace RobotProgram

namespace Literal

/-- Why a body could not be read. Each cause carries the number of bytes left unread where
reading stopped, so its offset is the body's length less that. -/
inductive ReadError where
  | endOfInput (left : Nat)
  | expectedSeparator (left : Nat)
  | unterminated (left : Nat)
  | badScalar (token : String) (left : Nat)
deriving Repr

/-- The reason text of a reading error in a body of `total` bytes. -/
def ReadError.reason (total : Nat) : ReadError → String
  | .endOfInput left => s!"unexpected end of input at offset {total - left}"
  | .expectedSeparator left => s!"expected ',' or ']' at offset {total - left}"
  | .unterminated left => s!"unterminated string at offset {total - left}"
  | .badScalar token left => s!"bad scalar '{token}' at offset {total - left}"

/-- The number of bytes of the characters in UTF-8. -/
def byteLength (cs : List Char) : Nat :=
  cs.foldr (fun c n => c.utf8Size + n) 0

/-- A character that ends a scalar. -/
def endsScalar (c : Char) : Bool := c == ',' || c == '[' || c == ']'

/-- The rest of `cs` after a value, strictly shorter than `cs`. -/
abbrev Rest (cs : List Char) := { r : List Char // r.length < cs.length }

/-- Leading ASCII blanks removed. -/
def skipBlanks (cs : List Char) : List Char := cs.dropWhile Text.isAsciiBlank

theorem length_skipBlanks_le (cs : List Char) : (skipBlanks cs).length ≤ cs.length :=
  (List.dropWhile_suffix _).sublist.length_le

/-- The value a scalar token stands for: `TRUE`, `FALSE` or a number. -/
def scalarValue? (token : String) : Option Literal :=
  if token == "TRUE" then some (.bool true)
  else if token == "FALSE" then some (.bool false)
  else (readFloat? token).map Literal.num

/-- Reads a scalar at the front of `cs`: the run up to `,`, `[` or `]`, trimmed. -/
def readScalar (cs : List Char) : Except ReadError (Literal × Rest cs) :=
  let inRun := fun c => !endsScalar c
  let rest := cs.dropWhile inRun
  let token := Text.trimBlank (String.ofList (cs.takeWhile inRun))
  match hrun : cs.takeWhile inRun, scalarValue? token with
  | _ :: _, some v =>
    have h : rest.length < cs.length := by
      have := congrArg List.length (List.takeWhile_append_dropWhile (p := inRun) (l := cs))
      rw [List.length_append, hrun] at this
      simp only [List.length_cons] at this
      simp only [rest]
      omega
    .ok (v, ⟨rest, h⟩)
  | _, _ => .error (.badScalar token (byteLength rest))

/-- Reads a string whose opening quote has been consumed: everything up to the next quote. -/
def readString (cs : List Char) : Except ReadError (Literal × Rest cs) :=
  let text := cs.takeWhile (· != '"')
  match h : cs.dropWhile (· != '"') with
  | [] => .error (.unterminated 0)
  | _ :: rest =>
    have hlen : rest.length < cs.length := by
      have := (List.dropWhile_suffix (fun c => c != '"') (l := cs)).sublist.length_le
      rw [h] at this
      simp only [List.length_cons] at this
      omega
    .ok (.str (String.ofList text), ⟨rest, hlen⟩)

mutual

/-- Reads one value at the front of `cs`, after leading blanks. -/
def readValue (cs : List Char) : Except ReadError (Literal × Rest cs) :=
  match h : skipBlanks cs with
  | [] => .error (.endOfInput 0)
  | c :: r =>
    have hr : r.length < cs.length := by
      have := length_skipBlanks_le cs
      rw [h] at this
      simp only [List.length_cons] at this
      omega
    if c = '[' then
      match readItems true [] r with
      | .error e => .error e
      | .ok (v, ⟨t, ht⟩) => .ok (v, ⟨t, by omega⟩)
    else if c = '"' then
      match readString r with
      | .error e => .error e
      | .ok (v, ⟨t, ht⟩) => .ok (v, ⟨t, by omega⟩)
    else
      match readScalar (c :: r) with
      | .error e => .error e
      | .ok (v, ⟨t, ht⟩) => .ok (v, ⟨t, by simp only [List.length_cons] at ht; omega⟩)
termination_by 3 * cs.length

/-- Reads the items of a list whose opening bracket has been consumed, after the items `acc`;
`first` allows the list to close at once. -/
def readItems (first : Bool) (acc : List Literal) (cs : List Char) :
    Except ReadError (Literal × Rest cs) :=
  match h : skipBlanks cs with
  | c :: t =>
    if first && c = ']' then
      have ht : t.length < cs.length := by
        have := length_skipBlanks_le cs
        rw [h] at this
        simp only [List.length_cons] at this
        omega
      .ok (.list acc, ⟨t, ht⟩)
    else readNext acc cs
  | [] => readNext acc cs
termination_by 3 * cs.length + 2

/-- Reads the next item of a list and what follows it: a comma and more items, or the closing
bracket. -/
def readNext (acc : List Literal) (cs : List Char) : Except ReadError (Literal × Rest cs) :=
  match readValue cs with
  | .error e => .error e
  | .ok (v, ⟨t, ht⟩) =>
    match h' : skipBlanks t with
    | c :: u =>
      have hu : u.length < t.length := by
        have := length_skipBlanks_le t
        rw [h'] at this
        simp only [List.length_cons] at this
        omega
      if c = ',' then
        match readItems false (acc ++ [v]) u with
        | .error e => .error e
        | .ok (w, ⟨z, hz⟩) => .ok (w, ⟨z, by omega⟩)
      else if c = ']' then .ok (.list (acc ++ [v]), ⟨u, by omega⟩)
      else .error (.expectedSeparator (byteLength (c :: u)))
    | [] => .error (.expectedSeparator 0)
termination_by 3 * cs.length + 1

end

/-- The body of a literal text: trimmed, less one trailing `;`. -/
def body (text : String) : String :=
  let trimmed := Text.trimBlankList text.toList
  match trimmed.getLast? with
  | some ';' => String.ofList trimmed.dropLast
  | _ => String.ofList trimmed

/-- Reads a complete literal. -/
def parse (text : String) : Except Error Literal :=
  let b := body text
  match readValue b.toList with
  | .error e => .error (.invalidLiteral b (e.reason b.utf8ByteSize))
  | .ok (v, ⟨rest, _⟩) =>
    if (skipBlanks rest).isEmpty then .ok v
    else .error (.invalidLiteral text "trailing characters")

end Literal

end RobotProgram
