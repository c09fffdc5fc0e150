import RobotProgram.Proofs.LiteralText
/-!
# RobotProgram.Proofs.LiteralGrammar

The grammar of bracket literals, stated on its own, and the reader's agreement with it. The
grammar reads the text trimmed of blanks (Unicode) and less one final `;`:

    value  ::= blank* ( list | string | scalar )
    list   ::= "[" blank* "]" | "[" value blank* ( "," value blank* )* "]"
    string ::= '"' (any character but '"')* '"'
    scalar ::= the longest run of characters other than ",", "[", "]", opening with neither
               "[" nor '"', whose text trimmed of blanks is TRUE, FALSE or a number

followed by ASCII blanks to the end. `blank` is an ASCII blank. The grammar does not say how
many blanks a `blank*` takes before a scalar: a scalar's run may open with blanks of its own,
which the trimming drops.

Main statement: `parse_iff_grammar`. Reading a literal succeeds exactly on the texts the
grammar derives, with the tree of the derivation, and fails on every other text with an
invalid-literal error. The proof goes through the reader's steps with the proofs of shorter
rests forgotten (`Reading`, one equation per step):

* soundness (`reading_sound`): what the reader returns is derived, by the reader's own
  mutual induction principle;
* completeness (`Value.reads`, `Items.reads`): a derivation is read, by mutual recursion over
  the derivation.
-/

namespace RobotProgram

namespace Literal

/-! ## The grammar -/

/-- ASCII blanks only. -/
def AllBlank (ws : List Char) : Prop := ∀ c ∈ ws, Text.isAsciiBlank c = true

/-- A character that ends a scalar's run. -/
def Terminator (c : Char) : Prop := c = ',' ∨ c = '[' ∨ c = ']'

/-- A scalar's text and the literal it stands for. -/
inductive ScalarToken : List Char → Literal → Prop
  | true : ScalarToken "TRUE".toList (.bool true)
  | false : ScalarToken "FALSE".toList (.bool false)
  | number {cs : List Char} {x : Float} : readFloat? (String.ofList cs) = some x →
      ScalarToken cs (.num x)

mutual

/-- `Value cs v rest`: a value stands at the front of `cs` for the literal `v`, and `rest`
follows it. -/
inductive Value : List Char → Literal → List Char → Prop
  | blank {c : Char} {cs rest : List Char} {v : Literal} : Text.isAsciiBlank c = true →
      Value cs v rest → Value (c :: cs) v rest
  | emptyList {ws rest : List Char} : AllBlank ws →
      Value ('[' :: (ws ++ ']' :: rest)) (.list []) rest
  | list {cs rest : List Char} {vs : List Literal} : Items cs vs rest →
      Value ('[' :: cs) (.list vs) rest
  | string {s rest : List Char} : '"' ∉ s →
      Value ('"' :: (s ++ '"' :: rest)) (.str (String.ofList s)) rest
  | scalar {run rest : List Char} {v : Literal} : (∀ c ∈ run, ¬Terminator c) →
      (∀ c ∈ rest.head?, Terminator c) → run.head? ≠ some '"' →
      ScalarToken (Text.trimBlankList run) v → Value (run ++ rest) v rest

/-- `Items cs vs rest`: the items of a list after its opening bracket, up to and with the
closing bracket, stand at the front of `cs` for `vs`, and `rest` follows. -/
inductive Items : List Char → List Literal → List Char → Prop
  | last {cs ws rest : List Char} {v : Literal} : Value cs v (ws ++ ']' :: rest) → AllBlank ws →
      Items cs [v] rest
  | cons {cs ws r rest : List Char} {v : Literal} {vs : List Literal} :
      Value cs v (ws ++ ',' :: r) → AllBlank ws → Items r vs rest → Items cs (v :: vs) rest

end

/-- The characters the grammar reads: the text trimmed of blanks, less one final `;`. -/
def Stripped (text : String) (body : List Char) : Prop :=
  Text.trimBlankList text.toList = body ++ [';'] ∨
    (Text.trimBlankList text.toList = body ∧ body.getLast? ≠ some ';')

/-- The grammar derives `text` as the literal `v`: a value, then ASCII blanks to the end. -/
def Accepts (text : String) (v : Literal) : Prop :=
  ∃ body ws, Stripped text body ∧ Value body v ws ∧ AllBlank ws

/-! ## Reading steps with their rests forgotten -/

/-- What a reading step gives, with the proof that the rest is shorter forgotten. -/
def Reading {cs : List Char} (r : Except ReadError (Literal × Rest cs)) :
    Except ReadError (Literal × List Char) :=
  (fun p => (p.1, p.2.val)) <$> r

@[simp] theorem reading_ok {cs : List Char} (v : Literal) (t : List Char)
    (ht : t.length < cs.length) :
    Reading (.ok (v, ⟨t, ht⟩) : Except ReadError (Literal × Rest cs)) = .ok (v, t) := rfl

@[simp] theorem reading_error {cs : List Char} (e : ReadError) :
    Reading (.error e : Except ReadError (Literal × Rest cs)) = .error e := rfl

/-- A value: after the blanks, a list, a string or a scalar by the first character. -/
theorem reading_readValue (cs : List Char) :
    Reading (readValue cs) = match skipBlanks cs with
      | [] => .error (.endOfInput 0)
      | c :: r => if c = '[' then Reading (readItems true [] r)
          else if c = '"' then Reading (readString r)
          else Reading (readScalar (c :: r)) := by
  rw [readValue]
  split
  · rename_i h
    rw [h]; rfl
  · rename_i c r h
    conv_rhs => rw [h]
    dsimp only
    split_ifs
    · cases readItems true [] r <;> rfl
    · cases readString r <;> rfl
    · cases readScalar (c :: r) <;> rfl

/-- The items of a list: a closing bracket first closes it at once if allowed, anything else
is an item. -/
theorem reading_readItems (first : Bool) (acc : List Literal) (cs : List Char) :
    Reading (readItems first acc cs) = match skipBlanks cs with
      | c :: t => if first = true ∧ c = ']' then .ok (.list acc, t)
          else Reading (readNext acc cs)
      | [] => Reading (readNext acc cs) := by
  rw [readItems]
  split
  · rename_i c t h
    conv_rhs => rw [h]
    dsimp only
    split_ifs <;> simp_all
  · rename_i h
    conv_rhs => rw [h]

/-- An item, then a comma and more items, or the closing bracket. -/
theorem reading_readNext (acc : List Literal) (cs : List Char) :
    Reading (readNext acc cs) = match Reading (readValue cs) with
      | .error e => .error e
      | .ok (v, t) => match skipBlanks t with
        | c :: u => if c = ',' then Reading (readItems false (acc ++ [v]) u)
            else if c = ']' then .ok (.list (acc ++ [v]), u)
            else .error (.expectedSeparator (byteLength (c :: u)))
        | [] => .error (.expectedSeparator 0) := by
  rw [readNext]
  cases readValue cs with
  | error e => rfl
  | ok p =>
    obtain ⟨v, ⟨t, ht⟩⟩ := p
    dsimp only [reading_ok]
    split
    · rename_i c u h
      conv_rhs => rw [h]
      dsimp only
      split_ifs
      · cases readItems false (acc ++ [v]) u <;> rfl
      · rfl
      · rfl
    · rename_i h
      conv_rhs => rw [h]
      rfl

/-- A string: everything up to the next quote, which must come. -/
theorem reading_readString (cs : List Char) :
    Reading (readString cs) = match cs.dropWhile (· != '"') with
      | [] => .error (.unterminated 0)
      | _ :: rest => .ok (.str (String.ofList (cs.takeWhile (· != '"'))), rest) := by
  rw [readString]
  split
  · rename_i h
    conv_rhs => rw [h]
    rfl
  · rename_i q rest h
    conv_rhs => rw [h]
    rfl

/-- A scalar: the run up to a terminator, if it is not empty and its trimmed text is a
scalar. -/
theorem reading_readScalar (cs : List Char) :
    Reading (readScalar cs) =
      let run := cs.takeWhile fun c => !endsScalar c
      let token := Text.trimBlank (String.ofList run)
      match run, scalarValue? token with
      | _ :: _, some v => .ok (v, cs.dropWhile fun c => !endsScalar c)
      | _, _ => .error (.badScalar token (byteLength (cs.dropWhile fun c => !endsScalar c))) := by
  rw [readScalar]
  split <;> simp_all

theorem reading_of_eq_ok {cs t : List Char} {r : Except ReadError (Literal × Rest cs)}
    {v : Literal} {ht : t.length < cs.length} (h : r = .ok (v, ⟨t, ht⟩)) :
    Reading r = .ok (v, t) := by
  rw [h]; rfl

theorem reading_of_eq_error {cs : List Char} {r : Except ReadError (Literal × Rest cs)}
    {e : ReadError} (h : r = .error e) : Reading r = .error e := by
  rw [h]; rfl

/-! ## Blanks and terminators -/

theorem endsScalar_eq_true_iff {c : Char} : endsScalar c = true ↔ Terminator c := by
  simp [endsScalar, Terminator, or_assoc]

theorem not_endsScalar_eq_true_iff {c : Char} : (!endsScalar c) = true ↔ ¬Terminator c := by
  simp [endsScalar, Terminator, and_assoc]

/-- The first character a `dropWhile` leaves fails its test. -/
theorem eq_false_of_dropWhile_eq_cons {p : Char → Bool} {l r : List Char} {c : Char}
    (h : l.dropWhile p = c :: r) : p c = false := by
  have hne : l.dropWhile p ≠ [] := by simp [h]
  have := List.head_dropWhile_not p hne
  simpa [h] using this

theorem skipBlanks_cons_of_blank {c : Char} (h : Text.isAsciiBlank c = true) (cs : List Char) :
    skipBlanks (c :: cs) = skipBlanks cs := by
  simp [skipBlanks, h]

theorem skipBlanks_append {ws : List Char} (h : AllBlank ws) (cs : List Char) :
    skipBlanks (ws ++ cs) = skipBlanks cs :=
  List.dropWhile_append_of_pos h

theorem skipBlanks_eq_nil_iff {cs : List Char} : skipBlanks cs = [] ↔ AllBlank cs :=
  List.dropWhile_eq_nil_iff

/-- What skipping blanks passes over is a run of blanks. -/
theorem exists_blanks_of_skipBlanks {cs ds : List Char} (h : skipBlanks cs = ds) :
    ∃ ws, AllBlank ws ∧ cs = ws ++ ds :=
  ⟨cs.takeWhile Text.isAsciiBlank, fun _ hc => List.mem_takeWhile_imp hc,
    by rw [← h, skipBlanks, List.takeWhile_append_dropWhile]⟩

/-- Trimming passes over leading ASCII blanks. -/
theorem trimBlankList_blanks_append {ws : List Char} (h : AllBlank ws) (cs : List Char) :
    Text.trimBlankList (ws ++ cs) = Text.trimBlankList cs := by
  unfold Text.trimBlankList
  rw [List.dropWhile_append_of_pos fun c hc => Text.isBlank_of_isAsciiBlank (h c hc)]

/-- Trimming keeps a first character that is no blank. -/
theorem trimBlankList_cons_of_not_blank {c : Char} (hc : Text.isBlank c = false)
    (cs : List Char) : ∃ ds, Text.trimBlankList (c :: cs) = c :: ds := by
  have hdrop : (cs.reverse ++ [c]).dropWhile Text.isBlank =
      cs.reverse.dropWhile Text.isBlank ++ [c] := by
    rw [List.dropWhile_append]
    split
    · rename_i hempty
      simp [List.isEmpty_iff.mp hempty, hc]
    · rfl
  exact ⟨(cs.reverse.dropWhile Text.isBlank).reverse, by simp [Text.trimBlankList, hc, hdrop]⟩

/-- Leading blanks before a value belong to it. -/
theorem Value.blanks {ws cs rest : List Char} {v : Literal} (hws : AllBlank ws)
    (h : Value cs v rest) : Value (ws ++ cs) v rest := by
  induction ws with
  | nil => exact h
  | cons c ws ih =>
    exact .blank (hws c (by simp)) (ih fun d hd => hws d (by simp [hd]))

theorem Value.of_skipBlanks {cs ds rest : List Char} {v : Literal} (hskip : skipBlanks cs = ds)
    (h : Value ds v rest) : Value cs v rest := by
  obtain ⟨ws, hws, rfl⟩ := exists_blanks_of_skipBlanks hskip
  exact h.blanks hws

/-! ## Scalars and strings -/

/-- The reader's scalar values are the grammar's scalar tokens. -/
theorem scalarValue?_eq_some_iff {cs : List Char} {v : Literal} :
    scalarValue? (String.ofList cs) = some v ↔ ScalarToken cs v := by
  constructor
  · intro h
    unfold scalarValue? at h
    split at h
    · rename_i htrue
      have hcs : cs = "TRUE".toList := by
        rw [← beq_iff_eq.mp htrue, String.toList_ofList]
      cases h
      rw [hcs]
      exact .true
    · split at h
      · rename_i hfalse
        have hcs : cs = "FALSE".toList := by
          rw [← beq_iff_eq.mp hfalse, String.toList_ofList]
        cases h
        rw [hcs]
        exact .false
      · obtain ⟨x, hx, rfl⟩ := Option.map_eq_some_iff.mp h
        exact .number hx
  · intro h
    cases h with
    | true => simp [scalarValue?]
    | false => simp [scalarValue?]
    | number hx => exact scalarValue?_of_readFloat? hx

/-- A scalar token is not empty and does not open with a quote. -/
theorem ScalarToken.cons {cs : List Char} {v : Literal} (h : ScalarToken cs v) :
    ∃ c ds, cs = c :: ds ∧ c ≠ '"' := by
  obtain ⟨c, ds, hcs, hquote⟩ := scalarValue?_cons (scalarValue?_eq_some_iff.mpr h)
  exact ⟨c, ds, by simpa using hcs, hquote⟩

/-- A scalar is read exactly as the grammar's scalar: a run with no terminator in it, up to a
terminator or the end, whose trimmed text is a scalar token. -/
theorem reading_readScalar_eq_ok_iff {cs t : List Char} {v : Literal} :
    Reading (readScalar cs) = .ok (v, t) ↔
      ∃ run, cs = run ++ t ∧ run ≠ [] ∧ (∀ c ∈ run, ¬Terminator c) ∧
        (∀ c ∈ t.head?, Terminator c) ∧ ScalarToken (Text.trimBlankList run) v := by
  constructor
  · intro h
    rw [reading_readScalar] at h
    dsimp only at h
    split at h
    · rename_i c r w hrun hval
      simp only [Except.ok.injEq, Prod.mk.injEq] at h
      obtain ⟨rfl, rfl⟩ := h
      refine ⟨cs.takeWhile fun c => !endsScalar c, List.takeWhile_append_dropWhile.symm,
        by simp [hrun], fun d hd => ?_, fun d hd => ?_, ?_⟩
      · have hin := List.mem_takeWhile_imp hd
        exact not_endsScalar_eq_true_iff.mp hin
      · obtain ⟨r', hr'⟩ : ∃ r', cs.dropWhile (fun c => !endsScalar c) = d :: r' := by
          cases hdrop : cs.dropWhile (fun c => !endsScalar c) with
          | nil => simp [hdrop] at hd
          | cons d' r' => simp only [hdrop, List.head?_cons, Option.mem_def,
              Option.some.injEq] at hd; exact ⟨r', by rw [hd]⟩
        have := eq_false_of_dropWhile_eq_cons hr'
        exact endsScalar_eq_true_iff.mp (by simpa using this)
      · rw [← scalarValue?_eq_some_iff]
        simpa [Text.trimBlank] using hval
    · simp at h
  · rintro ⟨run, rfl, hne, hrun, hstop, htok⟩
    have hin : ∀ c ∈ run, (!endsScalar c) = true :=
      fun c hc => not_endsScalar_eq_true_iff.mpr (hrun c hc)
    have hstops : Stops t := fun c hc => endsScalar_eq_true_iff.mpr (hstop c hc)
    have htake : (run ++ t).takeWhile (fun c => !endsScalar c) = run := by
      rw [List.takeWhile_append_of_pos hin, hstops.takeWhile, List.append_nil]
    have hdrop : (run ++ t).dropWhile (fun c => !endsScalar c) = t := by
      rw [List.dropWhile_append_of_pos hin, hstops.dropWhile]
    obtain ⟨c, r, rfl⟩ := List.exists_cons_of_ne_nil hne
    rw [reading_readScalar]
    simp only [htake, hdrop, Text.trimBlank, String.toList_ofList,
      scalarValue?_eq_some_iff.mpr htok]

/-- A string is read up to the next quote, which must come. -/
theorem reading_readString_eq_ok_iff {cs t : List Char} {v : Literal} :
    Reading (readString cs) = .ok (v, t) ↔
      ∃ s, cs = s ++ '"' :: t ∧ '"' ∉ s ∧ v = .str (String.ofList s) := by
  constructor
  · intro h
    rw [reading_readString] at h
    split at h
    · simp at h
    · rename_i q rest hdrop
      simp only [Except.ok.injEq, Prod.mk.injEq] at h
      obtain ⟨rfl, rfl⟩ := h
      have hq : q = '"' := by simpa using eq_false_of_dropWhile_eq_cons hdrop
      subst hq
      refine ⟨cs.takeWhile (· != '"'), ?_, fun hmem => ?_, rfl⟩
      · rw [← hdrop, List.takeWhile_append_dropWhile]
      · simpa using List.mem_takeWhile_imp hmem
  · rintro ⟨s, rfl, hs, rfl⟩
    have hin : ∀ c ∈ s, (c != '"') = true := by
      intro c hc
      simp only [bne_iff_ne, ne_eq]
      rintro rfl
      exact hs hc
    rw [reading_readString, List.dropWhile_append_of_pos hin, List.takeWhile_append_of_pos hin]
    simp

/-! ## Soundness -/

/-- What the reader returns is derived by the grammar: a value by `Value`, the items of a list by
`Items` unless the list closes at once. The induction is the reader's own mutual recursion, one
case per way a step can end; the cases that end in an error have nothing to show. -/
theorem reading_sound :
    (∀ cs v t, Reading (readValue cs) = .ok (v, t) → Value cs v t) ∧
    (∀ first acc cs w t, Reading (readItems first acc cs) = .ok (w, t) →
      ∃ vs, w = .list (acc ++ vs) ∧ (Items cs vs t ∨
        first = true ∧ vs = [] ∧ ∃ ws, AllBlank ws ∧ cs = ws ++ ']' :: t)) ∧
    (∀ acc cs w t, Reading (readNext acc cs) = .ok (w, t) →
      ∃ vs, w = .list (acc ++ vs) ∧ Items cs vs t) := by
  refine readValue.mutual_induct
    (fun cs => ∀ v t, Reading (readValue cs) = .ok (v, t) → Value cs v t)
    (fun first acc cs => ∀ w t, Reading (readItems first acc cs) = .ok (w, t) →
      ∃ vs, w = .list (acc ++ vs) ∧ (Items cs vs t ∨
        first = true ∧ vs = [] ∧ ∃ ws, AllBlank ws ∧ cs = ws ++ ']' :: t))
    (fun acc cs => ∀ w t, Reading (readNext acc cs) = .ok (w, t) →
      ∃ vs, w = .list (acc ++ vs) ∧ Items cs vs t)
    ?empty ?listError ?list ?stringError ?string ?scalarError ?scalar
    ?close ?items ?itemsEnd ?itemError ?commaError ?comma ?closeAfter ?noSeparator ?endAfter
  case empty =>
    intro cs hskip v t h
    simp [reading_readValue, hskip] at h
  case listError =>
    intro cs rest e herr hskip _ _ v t h
    simp [reading_readValue, hskip, reading_of_eq_error herr] at h
  case list =>
    intro cs rest v t ht hread hskip _ ih w u h
    simp [reading_readValue, hskip, reading_of_eq_ok hread] at h
    obtain ⟨rfl, rfl⟩ := h
    obtain ⟨vs, rfl, hitems | ⟨-, rfl, ws, hws, rfl⟩⟩ := ih v t (reading_of_eq_ok hread)
    · exact Value.of_skipBlanks hskip (by simpa using Value.list hitems)
    · exact Value.of_skipBlanks hskip (.emptyList hws)
  case stringError =>
    intro cs rest e herr hskip _ _ v t h
    simp [reading_readValue, hskip, reading_of_eq_error herr] at h
  case string =>
    intro cs rest v t ht hread hskip _ _ w u h
    simp [reading_readValue, hskip, reading_of_eq_ok hread] at h
    obtain ⟨rfl, rfl⟩ := h
    obtain ⟨s, rfl, hs, rfl⟩ := reading_readString_eq_ok_iff.mp (reading_of_eq_ok hread)
    exact Value.of_skipBlanks hskip (.string hs)
  case scalarError =>
    intro cs c rest hskip _ hopen hquote e herr v t h
    simp [reading_readValue, hskip, hopen, hquote, reading_of_eq_error herr] at h
  case scalar =>
    intro cs c rest hskip _ hopen hquote v t ht hread w u h
    simp [reading_readValue, hskip, hopen, hquote, reading_of_eq_ok hread] at h
    obtain ⟨rfl, rfl⟩ := h
    obtain ⟨run, hcs, hne, hrun, hstop, htok⟩ :=
      reading_readScalar_eq_ok_iff.mp (reading_of_eq_ok hread)
    -- the run opens with the character the blanks were skipped to, which is no quote
    have hhead : run.head? ≠ some '"' := by
      obtain ⟨d, ds, rfl⟩ := List.exists_cons_of_ne_nil hne
      simp only [List.cons_append, List.cons.injEq] at hcs
      simp [← hcs.1, hquote]
    rw [hcs] at hskip
    exact Value.of_skipBlanks hskip (.scalar hrun hstop hhead htok)
  case close =>
    intro first acc cs c t hskip hfirst _ w u h
    simp only [Bool.and_eq_true, decide_eq_true_eq] at hfirst
    obtain ⟨rfl, rfl⟩ := hfirst
    simp [reading_readItems, hskip] at h
    obtain ⟨rfl, rfl⟩ := h
    obtain ⟨ws, hws, rfl⟩ := exists_blanks_of_skipBlanks hskip
    exact ⟨[], by simp, .inr ⟨rfl, rfl, ws, hws, rfl⟩⟩
  case items =>
    intro first acc cs c t hskip hnot ih w u h
    rw [reading_readItems, hskip] at h
    dsimp only at h
    rw [if_neg (by simpa using hnot)] at h
    obtain ⟨vs, rfl, hitems⟩ := ih w u h
    exact ⟨vs, rfl, .inl hitems⟩
  case itemsEnd =>
    intro first acc cs hskip ih w u h
    rw [reading_readItems, hskip] at h
    obtain ⟨vs, rfl, hitems⟩ := ih w u h
    exact ⟨vs, rfl, .inl hitems⟩
  case itemError =>
    intro acc cs e herr _ w u h
    simp [reading_readNext, reading_of_eq_error herr] at h
  case commaError =>
    intro acc cs v t ht hread u e herr hskip _ _ _ w z h
    simp [reading_readNext, reading_of_eq_ok hread, hskip, reading_of_eq_error herr] at h
  case comma =>
    intro acc cs v t ht hread u w z hz hread' hskip _ ihv ihi w' z' h
    simp [reading_readNext, reading_of_eq_ok hread, hskip, reading_of_eq_ok hread'] at h
    obtain ⟨rfl, rfl⟩ := h
    have hv := ihv v t (reading_of_eq_ok hread)
    obtain ⟨ws, hws, rfl⟩ := exists_blanks_of_skipBlanks hskip
    obtain ⟨vs, rfl, hitems | ⟨hfalse, -⟩⟩ := ihi w z (reading_of_eq_ok hread')
    · exact ⟨v :: vs, by simp, .cons hv hws hitems⟩
    · cases hfalse
  case closeAfter =>
    intro acc cs v t ht hread u hskip _ _ ihv w z h
    simp [reading_readNext, reading_of_eq_ok hread, hskip] at h
    obtain ⟨rfl, rfl⟩ := h
    have hv := ihv v t (reading_of_eq_ok hread)
    obtain ⟨ws, hws, rfl⟩ := exists_blanks_of_skipBlanks hskip
    exact ⟨[v], rfl, .last hv hws⟩
  case noSeparator =>
    intro acc cs v t ht hread c u hskip _ hcomma hclose _ w z h
    simp [reading_readNext, reading_of_eq_ok hread, hskip, hcomma, hclose] at h
  case endAfter =>
    intro acc cs v t ht hread hskip _ w z h
    simp [reading_readNext, reading_of_eq_ok hread, hskip] at h

/-! ## Completeness -/

theorem reading_readValue_blank {c : Char} (hc : Text.isAsciiBlank c = true) (cs : List Char) :
    Reading (readValue (c :: cs)) = Reading (readValue cs) := by
  rw [reading_readValue, reading_readValue, skipBlanks_cons_of_blank hc]

/-- A value that is read does not open with a closing bracket: that would be read as a scalar,
and a scalar's run stops before it. -/
theorem skipBlanks_head_ne_close {cs t : List Char} {v : Literal}
    (h : Reading (readValue cs) = .ok (v, t)) : (skipBlanks cs).head? ≠ some ']' := by
  intro hclose
  obtain ⟨r, hr⟩ : ∃ r, skipBlanks cs = ']' :: r := by
    cases hs : skipBlanks cs with
    | nil => simp [hs] at hclose
    | cons d r =>
      simp only [hs, List.head?_cons, Option.some.injEq] at hclose
      exact ⟨r, by rw [hclose]⟩
  rw [reading_readValue, hr] at h
  simp only at h
  obtain ⟨run, hcs, hne, hrun, -⟩ := reading_readScalar_eq_ok_iff.mp h
  obtain ⟨d, ds, rfl⟩ := List.exists_cons_of_ne_nil hne
  simp only [List.cons_append, List.cons.injEq] at hcs
  exact hrun d (by simp) (by simp [← hcs.1, Terminator])

/-- Items that do not open with a closing bracket are read as items, whether or not the list
may close at once. -/
theorem reading_readItems_of_head_ne_close {first : Bool} {acc : List Literal} {cs : List Char}
    (h : (skipBlanks cs).head? ≠ some ']') :
    Reading (readItems first acc cs) = Reading (readNext acc cs) := by
  rw [reading_readItems]
  split
  · rename_i c t hs
    rw [if_neg]
    rintro ⟨-, rfl⟩
    simp [hs] at h
  · rfl

/-- A scalar run is read as the grammar's scalar. The reader skips the ASCII blanks the run
opens with; what it reaches is no quote, or the token would open with one. -/
theorem reading_readValue_scalar {run rest : List Char} {v : Literal}
    (hrun : ∀ c ∈ run, ¬Terminator c) (hstop : ∀ c ∈ rest.head?, Terminator c)
    (htok : ScalarToken (Text.trimBlankList run) v) :
    Reading (readValue (run ++ rest)) = .ok (v, rest) := by
  obtain ⟨ws, hws, hsplit⟩ := exists_blanks_of_skipBlanks (rfl : skipBlanks run = _)
  have htrim : Text.trimBlankList run = Text.trimBlankList (skipBlanks run) := by
    conv_lhs => rw [hsplit]
    exact trimBlankList_blanks_append hws _
  obtain ⟨c, r, hcr⟩ : ∃ c r, skipBlanks run = c :: r := by
    cases hs : skipBlanks run with
    | nil =>
      obtain ⟨_, _, hcons, -⟩ := htok.cons
      rw [htrim, hs] at hcons
      simp [Text.trimBlankList] at hcons
    | cons c r => exact ⟨c, r, rfl⟩
  have hblank : Text.isAsciiBlank c = false := eq_false_of_dropWhile_eq_cons hcr
  have hmem : ∀ d ∈ c :: r, d ∈ run := fun d hd => by
    rw [hsplit, hcr]
    exact List.mem_append_right _ hd
  have hopen : c ≠ '[' := fun h => hrun c (hmem c (by simp)) (by simp [h, Terminator])
  have hquote : c ≠ '"' := by
    rintro rfl
    obtain ⟨ds, hds⟩ := trimBlankList_cons_of_not_blank (by decide : Text.isBlank '"' = false) r
    obtain ⟨_, _, hcons, hne⟩ := htok.cons
    rw [htrim, hcr, hds] at hcons
    exact hne (List.cons.inj hcons).1.symm
  have hscalar : Reading (readScalar (c :: (r ++ rest))) = .ok (v, rest) :=
    reading_readScalar_eq_ok_iff.mpr ⟨c :: r, rfl, List.cons_ne_nil _ _,
      fun d hd => hrun d (hmem d hd), hstop, by rwa [← hcr, ← htrim]⟩
  rw [hsplit, List.append_assoc, reading_readValue, skipBlanks_append hws, hcr, List.cons_append,
    skipBlanks_cons hblank]
  simp only [hopen, hquote, if_false, hscalar]

mutual

/-- A value the grammar derives is read, and reading stops where the derivation does. -/
theorem Value.reads {cs : List Char} {v : Literal} {rest : List Char} :
    Value cs v rest → Reading (readValue cs) = .ok (v, rest)
  | .blank hc h => by
    rw [reading_readValue_blank hc]
    exact h.reads
  | .emptyList hws => by
    rw [reading_readValue, skipBlanks_cons (by decide)]
    simp [reading_readItems, skipBlanks_append hws,
      skipBlanks_cons (by decide : Text.isAsciiBlank ']' = false)]
  | .list h => by
    rw [reading_readValue, skipBlanks_cons (by decide)]
    simpa using h.reads true []
  | .string hs => by
    rw [reading_readValue, skipBlanks_cons (by decide)]
    simpa using reading_readString_eq_ok_iff.mpr ⟨_, rfl, hs, rfl⟩
  | .scalar hrun hstop _ htok => reading_readValue_scalar hrun hstop htok

/-- Items the grammar derives are read after any items before them. -/
theorem Items.reads {cs : List Char} {vs : List Literal} {rest : List Char} :
    Items cs vs rest → ∀ first acc,
      Reading (readItems first acc cs) = .ok (.list (acc ++ vs), rest)
  | .last h hws, first, acc => by
    have hv := h.reads
    rw [reading_readItems_of_head_ne_close (skipBlanks_head_ne_close hv), reading_readNext, hv]
    simp [skipBlanks_append hws, skipBlanks_cons (by decide : Text.isAsciiBlank ']' = false)]
  | .cons h hws hitems, first, acc => by
    have hv := h.reads
    rw [reading_readItems_of_head_ne_close (skipBlanks_head_ne_close hv), reading_readNext, hv]
    simp [skipBlanks_append hws, skipBlanks_cons (by decide : Text.isAsciiBlank ',' = false),
      hitems.reads false]

end

/-- The reader reads a value exactly where the grammar derives one. -/
theorem reading_readValue_eq_ok_iff {cs t : List Char} {v : Literal} :
    Reading (readValue cs) = .ok (v, t) ↔ Value cs v t :=
  ⟨reading_sound.1 cs v t, Value.reads⟩

/-! ## Whole literals -/

/-- The body the reader reads is the one text the grammar reads. -/
theorem stripped_iff {text : String} {b : List Char} :
    Stripped text b ↔ (body text).toList = b := by
  unfold Stripped body
  generalize Text.trimBlankList text.toList = l
  dsimp only
  constructor
  · rintro (rfl | ⟨rfl, hlast⟩)
    · simp
    · split
      · rename_i hsemi
        exact absurd hsemi hlast
      · simp
  · intro hb
    split at hb
    · rename_i hsemi
      subst hb
      left
      rw [String.toList_ofList, List.dropLast_append_getLast? _ hsemi]
    · rename_i hsemi
      subst hb
      right
      exact ⟨by simp, by simpa using hsemi⟩

/-- Parsing succeeds when the body reads as a value followed only by blanks. -/
theorem parse_eq_ok_iff {text : String} {v : Literal} :
    parse text = .ok v ↔
      ∃ t, Reading (readValue (body text).toList) = .ok (v, t) ∧ AllBlank t := by
  unfold parse
  dsimp only
  split
  · rename_i e hread
    simp [reading_of_eq_error hread]
  · rename_i w t ht hread
    rw [reading_of_eq_ok hread]
    by_cases hs : skipBlanks t = []
    · simp [hs, skipBlanks_eq_nil_iff.mp hs]
    · simp [hs, ← skipBlanks_eq_nil_iff]

/-- Every failure to parse is an invalid literal. -/
theorem parse_eq_error {text : String} {e : Error} (h : parse text = .error e) :
    ∃ lit reason, e = .invalidLiteral lit reason := by
  unfold parse at h
  dsimp only at h
  split at h
  · cases h
    exact ⟨_, _, rfl⟩
  · split at h
    · cases h
    · cases h
      exact ⟨_, _, rfl⟩

/-- Reading a literal succeeds exactly on the texts the grammar derives, with the literal of the
derivation; every other text is refused as an invalid literal. -/
theorem parse_iff_grammar (text : String) :
    (∀ v, parse text = .ok v ↔ Accepts text v) ∧
      ((∃ v, Accepts text v) ∨
        ∃ lit reason, parse text = .error (.invalidLiteral lit reason)) := by
  have hok : ∀ v, parse text = .ok v ↔ Accepts text v := by
    intro v
    rw [parse_eq_ok_iff]
    constructor
    · rintro ⟨t, hread, ht⟩
      exact ⟨_, t, stripped_iff.mpr rfl, reading_readValue_eq_ok_iff.mp hread, ht⟩
    · rintro ⟨b, t, hb, hv, ht⟩
      rw [← stripped_iff.mp hb] at hv
      exact ⟨t, reading_readValue_eq_ok_iff.mpr hv, ht⟩
  refine ⟨hok, ?_⟩
  cases hp : parse text with
  | ok v => exact .inl ⟨v, (hok v).mp hp⟩
  | error e =>
    obtain ⟨lit, reason, rfl⟩ := parse_eq_error hp
    exact .inr ⟨lit, reason, rfl⟩

end Literal

end RobotProgram
