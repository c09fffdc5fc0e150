import RobotProgram.Toml.Value
import RobotProgram.Decimal.Reading
import RobotProgram.Decimal.Layout
import RobotProgram.Text.Escaped
import RobotProgram.Text.Blank
/-!
# RobotProgram.Config.Layer

Configuration values as their sources give them, before they are read as settings.

A source is a TOML file or the process environment. Each gives a tree of keyed values; each
value remembers its source, so that a value of the wrong shape can be reported with where it
came from. Trees of several sources merge key by key, a later source winning wherever the two
do not both hold a table.

An environment variable `TORO_A_B=v` (the prefix matched in any case, blanks around the name
dropped) gives the key path `a.b`: every `_` becomes a `.`, names are lowercased, and a path
with an empty part is passed over. The value is read from its text, without its blanks at
either end:

* `true` and `false` are booleans;
* `[v, ...]` and `{k = v, ...}` are arrays and tables of such values; a closing bracket or
  brace ends them only where an item would start, so `[1, ]` has an empty second item;
* `"..."` is a string with the escapes of a TOML basic string, `'c'` a single character;
* any other text up to a `,`, bracket or brace is trimmed, and read as a float if it has a
  `.`, else as an unsigned then a signed integer, else kept as a string;
* a text that does not read wholly this way is kept as it is.

-/

-- Powers are `Nat.pow` and `Int.pow` themselves, whatever algebraic instances are in scope.
attribute [local instance (high)] instPowNat

namespace RobotProgram

/-- Where a configured value came from. -/
inductive Source where
  /-- A TOML file of that name. -/
  | file (name : String)
  /-- The environment variables with that name start. -/
  | environment (lead : String)
deriving Repr, DecidableEq, Inhabited

/-- A configured value. Integers keep whether they were read as signed or unsigned. -/
inductive Setting where
  | text (src : Source) (s : String)
  | character (src : Source) (c : Char)
  | flag (src : Source) (b : Bool)
  | signed (src : Source) (n : Int)
  | unsigned (src : Source) (n : Nat)
  | real (src : Source) (x : Float)
  | dict (src : Source) (entries : List (String × Setting))
  | list (src : Source) (items : List Setting)
deriving Inhabited

namespace Setting

/-- The source of a value. -/
def source : Setting → Source
  | .text s _ | .character s _ | .flag s _ | .signed s _ | .unsigned s _ | .real s _
  | .dict s _ | .list s _ => s

/-- Inserts a key into entries kept sorted by key. -/
def insertSorted (k : String) (v : Setting) : List (String × Setting) → List (String × Setting)
  | [] => [(k, v)]
  | (k', v') :: rest =>
    if k == k' then (k, v) :: rest
    else if k < k' then (k, v) :: (k', v') :: rest
    else (k', v') :: insertSorted k v rest

/-- A table of values from a source, with sorted keys. -/
def ofEntries (src : Source) (entries : List (String × Setting)) : Setting :=
  .dict src (entries.foldl (fun acc (k, v) => insertSorted k v acc) [])

/-- The values of a TOML document from a source. A date-time is a table holding its text. -/
def ofToml (src : Source) : Toml.Value → Setting
  | .string _ s => .text src s
  | .integer _ n => .signed src n
  | .float _ x => .real src x
  | .boolean _ b => .flag src b
  | .datetime _ t => .dict src [("$__toml_private_datetime", .text src t)]
  | .array _ items => .list src (items.attach.map fun ⟨v, _⟩ => ofToml src v)
  | .inlineTable _ _ es => ofEntries src (es.attach.map fun ⟨(k, v), _⟩ => (k, ofToml src v))
  | .table _ _ _ es => ofEntries src (es.attach.map fun ⟨(k, v), _⟩ => (k, ofToml src v))
  | .tables items => .list src (items.attach.map fun ⟨v, _⟩ => ofToml src v)
decreasing_by
  all_goals simp_wf
  all_goals first
    | (have h := List.sizeOf_lt_of_mem ‹_ ∈ items›; omega)
    | (have h := List.sizeOf_lt_of_mem ‹_ ∈ es›; simp only [Prod.mk.sizeOf_spec] at h; omega)

/-- Merges a later value into an earlier one: tables merge key by key, otherwise the later
value wins. -/
def merge : Setting → Setting → Setting
  | .dict _ a, .dict src b =>
    .dict src (b.attach.foldl (fun acc ⟨(k, v), _⟩ =>
      match acc.lookup k with
      | some old => insertSorted k (merge old v) acc
      | none => insertSorted k v acc) a)
  | _, v => v
decreasing_by
  have := List.sizeOf_lt_of_mem ‹_ ∈ b›
  simp only [Prod.mk.sizeOf_spec] at this
  simp_wf
  omega

end Setting

/-! ## Environment values -/

namespace EnvText

open Text

/-- Ends a bare value. -/
def isSeparator (c : Char) : Bool := c == ',' || c == '[' || c == ']' || c == '{' || c == '}'

/-- A character of a bare table key: an ASCII letter or digit, `_` or `-`. -/
def isKeyChar (c : Char) : Bool := c.isAlphanum || c == '_' || c == '-'

/-- Reads an unsigned integer: an optional `+` and decimal digits. -/
def unsigned? (s : String) : Option Nat :=
  let ds := match s.toList with
    | '+' :: rest => rest
    | cs => cs
  if !ds.isEmpty && ds.all Char.isDigit then
    let n := ds.foldl (fun acc c => 10 * acc + (c.toNat - '0'.toNat)) 0
    if n < 2 ^ (64 : Nat) then some n else none
  else none

/-- Reads a signed integer: an optional sign and decimal digits, within 64 bits. -/
def signed? (s : String) : Option Int :=
  match s.toList with
  | '-' :: rest =>
    match unsigned? (String.ofList rest) with
    | some n => if n ≤ 2 ^ (63 : Nat) && !rest.isEmpty && rest.head? != some '+' then some (-(n : Int)) else none
    | none => none
  | _ => (unsigned? s).bind fun n => if n < 2 ^ (63 : Nat) then some (n : Int) else none

/-- The value of a bare text. -/
def bare (src : Source) (t : String) : Setting :=
  let floatValue := if t.contains '.' then readFloat? t else none
  match floatValue with
  | some x => .real src x
  | none =>
    match unsigned? t with
    | some n => .unsigned src n
    | none =>
      match signed? t with
      | some n => .signed src n
      | none => .text src t

/-- The body of a quoted string after its opening quote, up to the first quote that no
backslash escapes, and what follows that quote. The body keeps its escapes. -/
def quotedBody (acc : List Char) : List Char → Option (List Char × List Char)
  | '"' :: rest => some (acc.reverse, rest)
  | '\\' :: c :: rest => quotedBody (c :: '\\' :: acc) rest
  | c :: rest => if c == '\\' then none else quotedBody (c :: acc) rest
  | [] => none

/-- The value of hexadecimal digits, any case. -/
def hexValue? (ds : List Char) : Option Nat :=
  ds.foldlM (fun acc d =>
    if '0' ≤ d ∧ d ≤ '9' then some (16 * acc + (d.toNat - '0'.toNat))
    else if 'a' ≤ d ∧ d ≤ 'f' then some (16 * acc + (d.toNat - 'a'.toNat + 10))
    else if 'A' ≤ d ∧ d ≤ 'F' then some (16 * acc + (d.toNat - 'A'.toNat + 10))
    else none) 0

/-- The character of a code given by exactly `n` hexadecimal digits, if it is a Unicode scalar
value. -/
def codeChar? (n : Nat) (cs : List Char) : Option Char := do
  let ds := cs.take n
  if ds.length ≠ n then none
  let v ← hexValue? ds
  if v < 0xD800 ∨ (0xDFFF < v ∧ v < 0x110000) then some (Char.ofNat v) else none

/-- A character that may stand in a basic string as itself: tab, or anything from the space up
but delete. -/
def plainChar (c : Char) : Bool := c == '\t' || (c.toNat ≥ 0x20 && c.toNat ≠ 0x7F)

/-- Unescapes the body of a basic string: `\b \t \n \f \r \" \\` by name, `\uXXXX` and
`\UXXXXXXXX` by code. Any other escape, a code that is no character, or a control character
standing as itself fails. -/
def unescape : List Char → Option (List Char)
  | [] => some []
  | '\\' :: c :: rest =>
    let named : Option Char :=
      if c == 'b' then some '\x08' else if c == 't' then some '\t'
      else if c == 'n' then some '\n' else if c == 'f' then some '\x0c'
      else if c == 'r' then some '\r' else if c == '"' then some '"'
      else if c == '\\' then some '\\' else none
    match named with
    | some e => (e :: ·) <$> unescape rest
    | none =>
      if c == 'u' then do
        let e ← codeChar? 4 rest
        (e :: ·) <$> unescape (rest.drop 4)
      else if c == 'U' then do
        let e ← codeChar? 8 rest
        (e :: ·) <$> unescape (rest.drop 8)
      else none
  | c :: rest => if plainChar c then (c :: ·) <$> unescape rest else none
termination_by cs => cs.length
decreasing_by all_goals simp_wf; all_goals omega

/-- A quoted string after its opening quote: its text and what follows. -/
def quoted (cs : List Char) : Option (String × List Char) := do
  let (body, rest) ← quotedBody [] cs
  let text ← unescape body
  pure (String.ofList text, rest)

mutual

/-- Reads one value with the blanks around it. -/
def value (src : Source) (cs : List Char) : Option (Setting × List Char) :=
  valueAt src (cs.dropWhile isBlank)
termination_by (cs.length, 1)
decreasing_by
  have hle := (@List.dropWhile_suffix Char cs isBlank).length_le
  omega

/-- Reads one value that starts right here, and the blanks after it. -/
def valueAt (src : Source) (cs : List Char) : Option (Setting × List Char) :=
  let r : Option (Setting × List Char) :=
    if cs.take 4 == "true".toList then some (.flag src true, cs.drop 4)
    else if cs.take 5 == "false".toList then some (.flag src false, cs.drop 5)
    else match cs with
      | '[' :: rest =>
        (items src [] rest).map fun (vs, r) => (.list src vs, r)
      | '\x7b' :: rest =>
        (pairs src [] rest).map fun (kvs, r) => (Setting.ofEntries src kvs, r)
      | '"' :: rest => (quoted rest).map fun (s, r) => (.text src s, r)
      | '\'' :: rest =>
        match rest with
        | c :: '\'' :: more => some (.character src c, more)
        | _ => none
      | _ =>
        let token := cs.takeWhile (fun c => !isSeparator c)
        some (bare src (trimBlank (String.ofList token)), cs.drop token.length)
  r.map fun (v, rest) => (v, rest.dropWhile isBlank)
termination_by (cs.length, 0)

/-- The items of an array after its `[`: a `]` right here ends it; otherwise an item comes,
then a `,` and more, or the closing `]`. -/
def items (src : Source) (acc : List Setting) (cs : List Char) : Option (List Setting × List Char) :=
  if cs.head? = some ']' then some (acc, cs.drop 1)
  else
    match value src cs with
    | some (v, rest) =>
      match rest with
      | ',' :: more => if more.length < cs.length then items src (acc ++ [v]) more else none
      | ']' :: more => some (acc ++ [v], more)
      | _ => none
    | none => none
termination_by (cs.length, 2)

/-- The pairs of a table after its opening brace: a closing brace right here ends it;
otherwise a key (bare or quoted), `=` and a value come, then a `,` and more, or the closing
brace. -/
def pairs (src : Source) (acc : List (String × Setting)) (cs : List Char) :
    Option (List (String × Setting) × List Char) :=
  if cs.head? = some '\x7d' then some (acc, cs.drop 1)
  else
    let cs1 := cs.dropWhile isBlank
    let keyed : Option (String × List Char) := match cs1 with
      | '"' :: rest => quoted rest
      | _ =>
        let k := cs1.takeWhile isKeyChar
        if k.isEmpty then none else some (String.ofList k, cs1.drop k.length)
    match keyed with
    | some (k, rest) =>
      match rest.dropWhile isBlank with
      | '=' :: more =>
        if more.length < cs.length then
          match value src more with
          | some (v, rest2) =>
            match rest2 with
            | ',' :: more2 =>
              if more2.length < cs.length then pairs src (acc ++ [(k, v)]) more2 else none
            | '\x7d' :: more2 => some (acc ++ [(k, v)], more2)
            | _ => none
          | none => none
        else none
      | _ => none
    | none => none
termination_by (cs.length, 2)

end

end EnvText

/-- The value of an environment variable's text: the text without its blanks at either end,
read as one value; a text that does not read wholly is kept as it is. -/
def Setting.ofEnvText (src : Source) (text : String) : Setting :=
  match EnvText.value src (Text.trimBlankList text.toList) with
  | some (v, []) => v
  | _ => .text src text

/-- Nests a value under a key path. -/
def Setting.nest (src : Source) : List String → Setting → Setting
  | [], v => v
  | k :: ks, v => .dict src [(k, nest src ks v)]

/-- The key path of an environment variable's name, if it starts with `lead` (in any case):
the rest of the name with `_` read as `.`, blanks at either end dropped, split at the dots and
lowercased. A path with an empty part is no path. -/
def envKeyPath (lead name : String) : Option (List String) :=
  let lower := fun (s : String) => s.toList.map Char.toLower
  let name := Text.trimBlank name
  if (lower lead).isPrefixOf (lower name) then
    let rest := (name.toList.drop lead.length).map fun c => if c == '_' then '.' else c
    let key := Text.trimBlank (String.ofList rest)
    let path := (key.splitOn ".").map fun part => String.ofList (lower part)
    if path.any (·.isEmpty) then none else some path
  else none

/-- The values given by environment variables whose names start with `lead` (in any case). -/
def Setting.ofEnvironment (lead : String) (vars : List (String × String)) : Setting :=
  let src := Source.environment lead
  vars.foldl (fun acc (name, raw) =>
    match envKeyPath lead name with
    | some path => acc.merge (Setting.nest src path (Setting.ofEnvText src raw))
    | none => acc) (.dict src [])

/-! ## Reading values as settings -/

/-- What was found where something else was expected. -/
inductive Found where
  | flag (b : Bool)
  | unsigned (n : Nat)
  | signed (n : Int)
  | real (x : Float)
  | text (s : String)
  | sequence
  | map

/-- The description of what was found. -/
def Found.describe : Found → String
  | .flag b => "bool " ++ toString b
  | .unsigned n => "unsigned int `" ++ toString n ++ "`"
  | .signed n => "signed int `" ++ toString n ++ "`"
  | .real x => "float `" ++ Layout.plainText x ++ "`"
  | .text s => "string " ++ Text.quoteEscaped s
  | .sequence => "sequence"
  | .map => "map"

/-- What a value is. A character is met as the string of it, which is how every reader that
does not take characters passes one on. -/
def Setting.found : Setting → Found
  | .text _ s => .text s
  | .character _ c => .text c.toString
  | .flag _ b => .flag b
  | .signed _ n => .signed n
  | .unsigned _ n => .unsigned n
  | .real _ x => .real x
  | .dict _ _ => .map
  | .list _ _ => .sequence

/-- Why a value could not be read as a setting. -/
inductive LoadFault where
  /-- A value of the wrong kind. -/
  | invalidType (found : Found) (expected : String)
  /-- A value of the right kind out of range. -/
  | invalidValue (found : Found) (expected : String)

/-- A value that could not be read, with its key path and source. -/
structure LoadError where
  fault : LoadFault
  path : List String := []
  source : Source

/-- The description of a source. -/
def Source.describe : Source → String
  | .file name => name ++ " TOML file"
  | .environment lead => "`" ++ lead.toUpper ++ "` environment variable(s)"

/-- How a source names a key path. -/
def Source.keyName : Source → List String → String
  | .file _, path => ".".intercalate ("default" :: path)
  | .environment _, path => ".".intercalate (path.map String.toUpper)

/-- The text of a load error. -/
def LoadError.message (e : LoadError) : String :=
  let what := match e.fault with
    | .invalidType f x => "invalid type: found " ++ f.describe ++ ", expected " ++ x
    | .invalidValue f x => "invalid value: found " ++ f.describe ++ ", expected " ++ x
  let key := if e.path.isEmpty then "" else " for key " ++ Text.quoteEscaped (e.source.keyName e.path)
  what ++ key ++ " in " ++ e.source.describe

namespace Setting

/-- A failure at a value. -/
def wrongType {α : Type} (v : Setting) (expected : String) : Except LoadError α :=
  .error { fault := .invalidType v.found expected, source := v.source }

/-- Reads a string. -/
def asText (v : Setting) : Except LoadError String :=
  match v with
  | .text _ s => .ok s
  | .character _ c => .ok c.toString
  | _ => wrongType v "a string"

/-- Reads a size: a non-negative integer. -/
def asSize (v : Setting) : Except LoadError Nat :=
  match v with
  | .unsigned _ n => if n < 2 ^ (64 : Nat) then .ok n else wrongType v "usize"
  | .signed src n =>
    if n ≥ 0 then .ok n.toNat else .error { fault := .invalidValue (.signed n) "usize", source := src }
  | _ => wrongType v "usize"

/-- Reads a float; integers are taken as their value. -/
def asFloat (v : Setting) : Except LoadError Float :=
  match v with
  | .real _ x => .ok x
  | .signed _ n => .ok (Float.ofInt n)
  | .unsigned _ n => .ok (Float.ofNat n)
  | _ => wrongType v "f64"

/-- A failure inside the value at a key, with the key put in front of its path. -/
def underKey {α : Type} (k : String) (r : Except LoadError α) : Except LoadError α :=
  r.mapError fun e => { e with path := k :: e.path }

/-- Reads a list of floats; a failing item is named by its index. -/
def asFloats (v : Setting) : Except LoadError (List Float) :=
  match v with
  | .list _ items =>
    ((List.range items.length).zip items).mapM fun (i, x) => underKey (toString i) (asFloat x)
  | _ => wrongType v "a sequence"

/-- Reads a record from a table by its fields (in key order, unknown keys ignored) or from an
array by position (missing items keep their defaults). -/
def asRecord {α : Type} (v : Setting) (what : String) (init : α)
    (fields : List (String × (α → Setting → Except LoadError α))) : Except LoadError α :=
  match v with
  | .dict _ entries =>
    entries.foldlM (fun acc (k, x) =>
      match fields.lookup k with
      | some f => underKey k (f acc x)
      | none => .ok acc) init
  | .list _ items =>
    (fields.zip items).foldlM (fun acc ((_, f), x) => f acc x) init
  | _ => wrongType v what

end Setting

end RobotProgram
