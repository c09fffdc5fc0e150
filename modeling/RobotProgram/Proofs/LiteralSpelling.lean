import RobotProgram.Proofs.LiteralGrammar
/-!
# RobotProgram.Proofs.LiteralSpelling

Two facts about literal texts that the grammar of `Proofs.LiteralGrammar` gives at once.

* What reading gives holds no quote in any of its strings (`quoteFree_of_parse`): a string
  ends at the first quote after its opening one.
* Texts built from pieces that each spell a value read as the literal built from those values
  (`Spells`): written literals and quoted strings spell their values, and items in brackets
  separated by commas spell the list of their values (`Spells.list`). A text that spells a value
  and has no blank at either end and no final `;` parses as that value (`parse_of_spells`).
  This is how texts that mix strings with written lists are read back.
-/

namespace RobotProgram

namespace Literal

/-! ## Strings of read literals -/

mutual
/-- No string in the literal holds a quote. -/
def quoteFree : Literal → Bool
  | .list items => quoteFreeItems items
  | .str s => !s.toList.contains '"'
  | .num _ => true
  | .bool _ => true
/-- No string in the items holds a quote. -/
def quoteFreeItems : List Literal → Bool
  | [] => true
  | v :: vs => v.quoteFree && quoteFreeItems vs
end

@[simp] theorem quoteFree_str (s : String) : (Literal.str s).quoteFree = true ↔ '"' ∉ s.toList := by
  simp [quoteFree]

@[simp] theorem quoteFree_list (items : List Literal) :
    (Literal.list items).quoteFree = true ↔ ∀ v ∈ items, v.quoteFree = true := by
  rw [quoteFree]
  induction items with
  | nil => simp [quoteFreeItems]
  | cons v vs ih => simp [quoteFreeItems, ih]

/-- A scalar holds no string. -/
theorem quoteFree_of_scalarToken {cs : List Char} {v : Literal} :
    ScalarToken cs v → v.quoteFree = true
  | .true => rfl
  | .false => rfl
  | .number _ => rfl

mutual
/-- A derived value holds no quote in its strings: a string ends at the first quote. -/
theorem Value.quoteFree {cs : List Char} {v : Literal} {rest : List Char} :
    Value cs v rest → v.quoteFree = true
  | .blank _ h => h.quoteFree
  | .emptyList _ => by simp
  | .list h => by
    rw [quoteFree]
    exact h.quoteFree
  | .string hs => by simpa using hs
  | .scalar _ _ _ htok => quoteFree_of_scalarToken htok
/-- Derived items hold no quote in their strings. -/
theorem Items.quoteFree {cs : List Char} {vs : List Literal} {rest : List Char} :
    Items cs vs rest → quoteFreeItems vs = true
  | .last h _ => by simp [quoteFreeItems, h.quoteFree]
  | .cons h _ hitems => by simp [quoteFreeItems, h.quoteFree, hitems.quoteFree]
end

/-- No string of a parsed literal holds a quote. -/
theorem quoteFree_of_parse {text : String} {v : Literal} (h : parse text = .ok v) :
    v.quoteFree = true := by
  obtain ⟨t, hread, -⟩ := parse_eq_ok_iff.mp h
  exact (reading_readValue_eq_ok_iff.mp hread).quoteFree

/-! ## Spelling values -/

/-- `cs` spells `v`: followed by the end of the text, a comma or a bracket, it is a value that
stands for `v` and stops right after `cs`. -/
def Spells (cs : List Char) (v : Literal) : Prop :=
  ∀ rest, Stops rest → Value (cs ++ rest) v rest

/-- A written literal spells the value it stands for. -/
theorem Spells.written {w : Written} {v : Literal} (hv : w.value? = some v) :
    Spells w.chars v := by
  intro rest hrest
  obtain ⟨hlen, hread⟩ := readValue_chars w hv hrest
  exact reading_readValue_eq_ok_iff.mp (by rw [hread]; rfl)

/-- A text in quotes with no quote inside spells a string. -/
theorem Spells.string {s : List Char} (hs : '"' ∉ s) :
    Spells ('"' :: (s ++ ['"'])) (.str (String.ofList s)) := by
  intro rest _
  simpa using @Value.string s rest hs

/-- Items that spell values, separated by commas and closed by a bracket, are the items of the
list of those values. -/
theorem Spells.items : ∀ (ps : List (List Char × Literal)), ps ≠ [] →
    (∀ p ∈ ps, Spells p.1 p.2) → ∀ rest,
      Items ([','].intercalate (ps.map Prod.fst) ++ ']' :: rest) (ps.map Prod.snd) rest
  | [], hne, _, _ => absurd rfl hne
  | [p], _, h, rest => by
    have hv := h p (by simp) (']' :: rest) (Stops.cons (by decide) rest)
    exact Items.last (show Value _ _ ([] ++ ']' :: rest) by simpa using hv) (by simp [AllBlank])
  | p :: p' :: ps, _, h, rest => by
    have hitems := Spells.items (p' :: ps) (by simp) (fun q hq => h q (by simp_all)) rest
    have hv := h p (by simp) (',' :: ([','].intercalate ((p' :: ps).map Prod.fst) ++ ']' :: rest))
      (Stops.cons (by decide) _)
    have hcons := Items.cons (show Value _ _ ([] ++ ',' :: _) from hv) (by simp [AllBlank]) hitems
    simpa [List.intercalate_cons_cons] using hcons

/-- Items that spell values, in brackets and separated by commas, spell the list of the values. -/
theorem Spells.list {ps : List (List Char × Literal)} (hne : ps ≠ [])
    (h : ∀ p ∈ ps, Spells p.1 p.2) :
    Spells ('[' :: ([','].intercalate (ps.map Prod.fst) ++ [']'])) (.list (ps.map Prod.snd)) := by
  intro rest _
  simpa using Value.list (Spells.items ps hne h rest)

/-- A text that spells a value, with no blank at either end and no final semicolon, parses as
that value. -/
theorem parse_of_spells {cs : List Char} {v : Literal} (h : Spells cs v)
    (htrim : Text.trimBlankList cs = cs) (hlast : cs.getLast? ≠ some ';') :
    parse (String.ofList cs) = .ok v := by
  have hbody : (body (String.ofList cs)).toList = cs :=
    stripped_iff.mp (.inr ⟨by simpa using htrim, hlast⟩)
  refine parse_eq_ok_iff.mpr ⟨[], ?_, by simp [AllBlank]⟩
  rw [hbody]
  exact Value.reads (by simpa using h [] Stops.nil)

end Literal

end RobotProgram
