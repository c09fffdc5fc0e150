import RobotProgram.Toml.Lexical
/-!
# RobotProgram.Toml.Document

Reading a whole TOML text into a `Value`: values nested in arrays and inline tables, key-value
pairs, table headers, and the rules on how tables may be defined.

A document is read line by line: blank lines and comments are skipped, `[path]` opens a table,
`[[path]]` appends a table to an array of tables, and `key = value` defines a key in the table
opened last. A key may be defined once; a table may get one header; a dotted key makes tables
on its way and may not reach into a table that has a header, nor into a value. Each table is
placed into the document when the next header is read; a header's path is checked when the
header is read, so that a clash is reported at the header.

The root table starts at offset zero; a table made on the way to a longer key is placed at
that key's part.
-/

namespace RobotProgram

namespace Toml

/-- The entries of a table, in the order they were defined. -/
abbrev Entries := List (String × Value)

/-- Sets a key, in place if present and at the end otherwise. -/
def Entries.put (es : Entries) (k : String) (v : Value) : Entries :=
  if es.any (·.1 == k) then es.map fun p => if p.1 == k then (k, v) else p else es ++ [(k, v)]

/-- Removes a key. -/
def Entries.erase (es : Entries) (k : String) : Entries := es.filter (·.1 != k)

/-! ## Values -/

/-- An error of a value at a place: what a value cannot start with. -/
def notAValue (c : Cursor) : SyntaxError :=
  { failAt c with label := some "string", expected := ["`\"`", "`'`"] }

/-- Changes the inline table at a dotted path below `es`, making implicit inline tables on
the way; `f` gets whether the target was made by dotted keys. -/
def modifyInline {α : Type} (walked : List String) :
    KeyPath → Bool → Entries → (Bool → Entries → Except TreeError (Entries × α)) →
      Except TreeError (Entries × α)
  | [], here, es, f => f here es
  | (k, pos) :: ks, _, es, f =>
    let dotted := true
    match es.lookup k with
    | none => do
      let (inner, a) ← modifyInline (walked ++ [k]) ks dotted [] f
      pure (es ++ [(k, .inlineTable pos true inner)], a)
    | some (.inlineTable s implicit inner) =>
      if dotted && !implicit then .error (.duplicateKey k none)
      else do
        let (inner', a) ← modifyInline (walked ++ [k]) ks implicit inner f
        pure (es.put k (.inlineTable s implicit inner'), a)
    | some v => .error (.extendWrongType (walked ++ [k]) v.typeName)

/-- Adds `path = v` to the pairs of an inline table read so far. -/
def addInlinePair (es : Entries) (path : KeyPath) (v : Value) : Except TreeError Entries := do
  let key := (path.getLastD ("", 0)).1
  let (es', ()) ← modifyInline [] path.dropLast false es fun _ inner =>
    match inner.lookup key with
    | none => .ok (inner ++ [(key, v)], ())
    | some _ => .error (.duplicateKey key none)
  pure es'

mutual

/-- A value. Arrays and inline tables read their items through `arrayItems` and
`inlinePairs`. -/
def value (c : Cursor) : Except SyntaxError (Value × Cursor) :=
  match c.rest with
  | '"' :: _ =>
    if c.startsWith "\"\"\"" then
      (multiString '"' true "multiline basic string" c).map fun (s, c') => (.string c.pos s, c')
    else (basicString c).map fun (s, c') => (.string c.pos s, c')
  | '\'' :: _ =>
    if c.startsWith "'''" then
      (multiString '\'' false "multiline literal string" c).map fun (s, c') => (.string c.pos s, c')
    else (literalString c).map fun (s, c') => (.string c.pos s, c')
  | '[' :: _ => array c
  | '{' :: _ => inlineTable c
  | x :: _ =>
    if x == '+' || x == '-' || isDigitChar x then number c
    else if x == 't' || x == 'f' || x == 'i' || x == 'n' then word c
    else if x == '_' then .error { failAt c with label := some "integer", expected := ["leading digit"] }
    else if x == '.' then
      .error { failAt c with label := some "floating-point number", expected := ["leading digit"] }
    else .error (notAValue c)
  | [] => .error (failAt c)
termination_by (c.rest.length, 1)

/-- An array; `c` is at `[`. -/
def array (c : Cursor) : Except SyntaxError (Value × Cursor) :=
  let c1 := skipTrivia c.advance
  if c1.rest.length < c.rest.length then
    (arrayItems [] c1).map fun (items, c') => (.array c.pos items, c')
  else .error (failAt c)
termination_by (c.rest.length, 0)

/-- The items of an array up to its `]`; `c` is at an item or the end, after blanks. A comma
may follow the last item. -/
def arrayItems (acc : List Value) (c : Cursor) : Except SyntaxError (List Value × Cursor) :=
  let close (c' : Cursor) : Except SyntaxError (List Value × Cursor) :=
    if c'.peek? == some ']' then .ok (acc, c'.advance)
    else .error { failAt c' with label := some "array", expected := ["`]`"], committed := true }
  match value c with
  | .error e => if e.committed then .error e else close c
  | .ok (v, c1) =>
    let c2 := skipTrivia c1
    if c2.peek? == some ',' then
      let c3 := skipTrivia c2.advance
      if c3.rest.length < c.rest.length then arrayItems (acc ++ [v]) c3
      else .error (failAt c3)
    else
      if c2.peek? == some ']' then .ok (acc ++ [v], c2.advance)
      else .error { failAt c2 with label := some "array", expected := ["`]`"], committed := true }
termination_by (c.rest.length, 2)

/-- An inline table; `c` is at `{`. -/
def inlineTable (c : Cursor) : Except SyntaxError (Value × Cursor) :=
  let c1 := c.advance
  if c1.rest.length < c.rest.length then
    match inlinePairs [] c1 with
    | .ok (pairs, c2) =>
      let built := pairs.foldlM (fun es (p : KeyPath × Value) => addInlinePair es p.1 p.2) []
      match built with
      | .ok es => .ok (.inlineTable c.pos false es, c2)
      | .error t => .error { failAt c1 with cause := some t.message, committed := true }
    | .error e => .error e
  else .error (failAt c)
termination_by (c.rest.length, 0)

/-- The pairs of an inline table up to its `}`; `c` is just after `{` or a comma. -/
def inlinePairs (acc : List (KeyPath × Value)) (c : Cursor) :
    Except SyntaxError (List (KeyPath × Value) × Cursor) :=
  let close (c' : Cursor) : Except SyntaxError (List (KeyPath × Value) × Cursor) :=
    let c' := skipBlanks c'
    if c'.peek? == some '}' then .ok (acc, c'.advance)
    else .error { failAt c' with label := some "inline table", expected := ["`\x7d`"], committed := true }
  match dottedKey c with
  | .error e => if e.committed then .error e else close c
  | .ok (path, c1) =>
    if c1.peek? == some '=' then
      let c2 := skipBlanks c1.advance
      if c2.rest.length < c.rest.length then
        match value c2 with
        | .error e => .error e.commit
        | .ok (v, c3) =>
          let c4 := skipBlanks c3
          let acc := acc ++ [(path, v)]
          if c4.peek? == some ',' then
            let c5 := c4.advance
            if c5.rest.length < c.rest.length then
              match dottedKey c5 with
              | .ok _ => inlinePairs acc c5
              | .error e =>
                if e.committed then .error e
                else .error { failAt c4 with label := some "inline table", expected := ["`\x7d`"], committed := true }
            else .error (failAt c5)
          else
            if c4.peek? == some '}' then .ok (acc, c4.advance)
            else .error { failAt c4 with label := some "inline table", expected := ["`\x7d`"], committed := true }
      else .error (failAt c2)
    else .error { failAt c1 with expected := ["`.`", "`=`"], committed := true }
termination_by (c.rest.length, 2)

end

/-! ## Tables -/

/-- Changes the table at a path below `es`, making implicit tables on the way (dotted ones when
`dotted`), and going into the last table of an array of tables. `f` gets whether the target was
made by dotted keys. A dotted path may not go into a table that has a header. -/
def modifyTable {α : Type} (dotted : Bool) (walked : List String) :
    KeyPath → Bool → Entries → (Bool → Entries → Except TreeError (Entries × α)) →
      Except TreeError (Entries × α)
  | [], here, es, f => f here es
  | (k, pos) :: ks, _, es, f =>
    match es.lookup k with
    | none => do
      let (inner, a) ← modifyTable dotted (walked ++ [k]) ks dotted [] f
      pure (es ++ [(k, .table pos true dotted inner)], a)
    | some (.table s implicit isDotted inner) =>
      if dotted && !implicit then .error (.duplicateKey k none)
      else do
        let (inner', a) ← modifyTable dotted (walked ++ [k]) ks isDotted inner f
        pure (es.put k (.table s implicit isDotted inner'), a)
    | some (.tables items) =>
      match items.getLast? with
      | some (.table s implicit isDotted inner) => do
        let (inner', a) ← modifyTable dotted (walked ++ [k]) ks isDotted inner f
        pure (es.put k (.tables (items.dropLast ++ [.table s implicit isDotted inner'])), a)
      | _ => .error (.extendWrongType (walked ++ [k]) "array of tables")
    | some v => .error (.extendWrongType (walked ++ [k]) v.typeName)

/-- A document being read: the tables placed so far, and the table being filled with its
path, its start, and whether it belongs to an array of tables. -/
structure Builder where
  root : Entries := []
  current : Entries := []
  currentStart : Nat := 0
  path : KeyPath := []
  inArray : Bool := false

namespace Builder

/-- Places the table being filled into the document. -/
def finalize (b : Builder) : Except TreeError Builder := do
  match b.path.getLast? with
  | none => pure { b with root := b.current, current := [] }
  | some (key, _) =>
    let parent := b.path.dropLast
    let t := Value.table b.currentStart false false b.current
    let (root, ()) ← modifyTable false [] parent false b.root fun _ es =>
      match es.lookup key, b.inArray with
      | none, true => .ok (es ++ [(key, .tables [t])], ())
      | some (.tables items), true => .ok (es.put key (.tables (items ++ [t])), ())
      | none, false => .ok (es ++ [(key, t)], ())
      | some (.table _ true _ _), false => .ok (es.put key t, ())
      | _, _ => .error (.duplicateKey key (some (KeyPath.names parent)))
    pure { b with root, current := [] }

/-- Opens the table of a `[path]` header. A table already named on the way to a deeper header
is taken over with what it holds; any other definition of the path is a duplicate. -/
def openTable (b : Builder) (path : KeyPath) (start : Nat) : Except TreeError Builder := do
  let b ← b.finalize
  let key := (path.getLastD ("", 0)).1
  let parent := path.dropLast
  let (root, taken) ← modifyTable false [] parent false b.root fun _ es =>
    match es.lookup key with
    | none => .ok (es, [])
    | some (.table _ true false inner) => .ok (es.erase key, inner)
    | some _ => .error (.duplicateKey key (some (KeyPath.names parent)))
  pure { root, current := taken, currentStart := start, path, inArray := false }

/-- Opens a new table of the array of tables at a `[[path]]` header. The path is checked at
once, so that a clash with a value of another kind is reported at this header. -/
def openArrayTable (b : Builder) (path : KeyPath) (start : Nat) : Except TreeError Builder := do
  let b ← b.finalize
  let key := (path.getLastD ("", 0)).1
  let parent := path.dropLast
  let (root, ()) ← modifyTable false [] parent false b.root fun _ es =>
    match es.lookup key with
    | none | some (.tables _) => .ok (es, ())
    | some _ => .error (.duplicateKey key (some (KeyPath.names parent)))
  pure { b with root, current := [], currentStart := start, path, inArray := true }

/-- Defines `path = v` in the table being filled. -/
def define (b : Builder) (path : KeyPath) (v : Value) : Except TreeError Builder := do
  let key := (path.getLastD ("", 0)).1
  let dottedPath := path.dropLast
  let (current, ()) ← modifyTable true [] dottedPath false b.current fun here es =>
    if here == dottedPath.isEmpty then .error (.duplicateKey key none)
    else match es.lookup key with
      | none => .ok (es ++ [(key, v)], ())
      | some _ => .error (.duplicateKey key (some (KeyPath.names b.path)))
  pure { b with current }

end Builder

/-! ## Lines -/

/-- A table header; `c` is at `[`. -/
def header (b : Builder) (c : Cursor) : Except SyntaxError (Builder × Cursor) := do
  let label := fun (e : SyntaxError) => (e.withLabel "table header").commit
  let isArray := c.startsWith "[["
  let close := if isArray then "]]" else "]"
  let (path, c1) ← (dottedKey (c.advanceBy close.length)).mapError label
  if !c1.startsWith close then
    throw (label { failAt c1 with expected := ["`.`", "`" ++ close ++ "`"] })
  let c2 ← (lineEnd (c1.advanceBy close.length)).mapError label
  let opened := if isArray then b.openArrayTable path c.pos else b.openTable path c.pos
  match opened with
  | .ok b' => pure (b', c2)
  | .error t => throw (label { failAt c with cause := some t.message })

/-- A key-value pair and the end of its line. -/
def keyValue (b : Builder) (c : Cursor) : Except SyntaxError (Builder × Cursor) := do
  let (path, c1) ← (dottedKey c).mapError SyntaxError.commit
  if c1.peek? != some '=' then
    throw { failAt c1 with expected := ["`.`", "`=`"], committed := true }
  let (v, c2) ← (value (skipBlanks c1.advance)).mapError SyntaxError.commit
  let c3 ← lineEnd c2
  match b.define path v with
  | .ok b' => pure (b', c3)
  | .error t => throw { failAt c with cause := some t.message, committed := true }

/-- The lines of a document from `c` on. -/
def lines (b : Builder) (start : Cursor) : Except SyntaxError Builder :=
  let c := skipBlanks start
  let step : Except SyntaxError (Builder × Cursor) :=
    match c.rest with
    | '#' :: _ =>
      let c1 := skipComment c
      if c1.atEnd then .ok (b, c1)
      else match newline? c1 with
        | some c2 => .ok (b, c2)
        | none => .error { failAt c1 with committed := true }
    | '\n' :: _ => .ok (b, c.advance)
    | '\r' :: '\n' :: _ => .ok (b, c.advanceBy 2)
    | '[' :: _ => header b c
    | _ => keyValue b c
  if c.atEnd then .ok b
  else match step with
    | .error e => .error e
    | .ok (b', c') =>
      if c'.rest.length < start.rest.length then lines b' c' else .error (failAt c')
termination_by start.rest.length

end Toml

/-- Reads a TOML document into its root table. -/
def Toml.parse (text : String) : Except Toml.SyntaxError Toml.Value := do
  let c : Toml.Cursor := ⟨text.toList, 0⟩
  let c := if c.peek? == some '\uFEFF' then c.advance else c
  let b ← Toml.lines {} c
  match b.finalize with
  | .ok b' => pure (.table 0 false false b'.root)
  | .error t => throw { offset := none, cause := some t.message }

end RobotProgram
