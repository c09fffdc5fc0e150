import RobotProgram.Proofs.NumberText
/-!
# RobotProgram.Proofs.LiteralText

Reading back what a writer lays out. A `Written` literal is a tree of lists and scalar tokens
laid out as the program writers do it: brackets, items separated by single commas, no blanks,
and each scalar as a `Token`, a text with no comma, bracket or blank in it.

Main statements:
* `readValue_chars`: the reader, given the characters of a written literal followed by anything
  a scalar cannot run on into, returns the value the literal stands for and stops right after
  it. The proof follows the mutual recursion of the reader: one lemma per reading step, then a
  mutual induction over the tree and its item lists.
* `parse_list`: a written list is read back as a whole literal.
* `scalarValue?_numberText`: the program text of a number reads back as the number with the sign
  of a zero dropped, whenever the layout of the number reads back at all (`ReadsBack`).
-/

namespace RobotProgram

namespace Text

/-- Trimming keeps a text with no blanks. -/
theorem trimBlankList_of_plain {cs : List Char} (h : ∀ c ∈ cs, isBlank c = false) :
    trimBlankList cs = cs := by
  have hdrop : ∀ ds : List Char, (∀ c ∈ ds, isBlank c = false) →
      ds.dropWhile isBlank = ds := by
    intro ds hds
    cases ds with
    | nil => rfl
    | cons d ds => simp [hds d (by simp)]
  unfold trimBlankList
  rw [hdrop cs h, hdrop _ (by simpa using h), List.reverse_reverse]

/-- Trimming keeps a text whose first and last characters are not blanks. -/
theorem trimBlankList_ends {c d : Char} (hc : isBlank c = false) (hd : isBlank d = false)
    (cs : List Char) : trimBlankList (c :: (cs ++ [d])) = c :: (cs ++ [d]) := by
  simp [trimBlankList, hc, hd]

/-- A character that is no blank is no ASCII blank. -/
theorem isAsciiBlank_eq_false {c : Char} (h : isBlank c = false) : isAsciiBlank c = false := by
  cases hc : isAsciiBlank c
  · rfl
  · simp [isBlank_of_isAsciiBlank hc] at h

end Text

namespace Literal

/-! ## Written literals -/

/-- A scalar as a writer spells it: no comma, bracket or blank in it. -/
structure Token where
  text : String
  plain : ∀ c ∈ text.toList, endsScalar c = false ∧ Text.isBlank c = false

/-- The plainness of a fixed text, as a check over its characters that `decide` runs (deciding
the bounded statement directly would try every character). -/
theorem Token.plain_of_all {cs : List Char}
    (h : (cs.all fun c => !endsScalar c && !Text.isBlank c) = true) :
    ∀ c ∈ cs, endsScalar c = false ∧ Text.isBlank c = false := by
  intro c hc
  simpa using List.all_eq_true.mp h c hc

/-- A literal as a writer lays it out: lists in brackets with their items separated by single
commas, no blanks anywhere, and scalars as tokens. -/
inductive Written where
  | list (items : List Written)
  | token (t : Token)

mutual
/-- The characters of a written literal. -/
def Written.chars : Written → List Char
  | .list items => '[' :: Written.itemChars items ++ [']']
  | .token t => t.text.toList
/-- The items of a list, separated by commas. -/
def Written.itemChars : List Written → List Char
  | [] => []
  | [w] => w.chars
  | w :: w' :: ws => w.chars ++ ',' :: Written.itemChars (w' :: ws)
end

mutual
/-- The value a written literal stands for, if each of its tokens is a scalar. -/
def Written.value? : Written → Option Literal
  | .list items => (Written.values? items).map Literal.list
  | .token t => scalarValue? t.text
/-- The values of the items of a list. -/
def Written.values? : List Written → Option (List Literal)
  | [] => some []
  | w :: ws => w.value?.bind fun v => (Written.values? ws).map (v :: ·)
end

theorem Written.values?_cons {w : Written} {ws : List Written} {vs : List Literal}
    (h : Written.values? (w :: ws) = some vs) :
    ∃ v us, w.value? = some v ∧ Written.values? ws = some us ∧ vs = v :: us := by
  simp only [Written.values?, Option.bind_eq_some_iff, Option.map_eq_some_iff] at h
  obtain ⟨v, hv, us, hus, rfl⟩ := h
  exact ⟨v, us, hv, hus, rfl⟩

/-- A list of tokens, each a scalar, stands for the list of their values. -/
theorem Written.values?_tokens {α : Type} (f : α → Token) (g : α → Literal) {xs : List α}
    (h : ∀ a ∈ xs, scalarValue? (f a).text = some (g a)) :
    Written.values? (xs.map fun a => .token (f a)) = some (xs.map g) := by
  induction xs with
  | nil => rfl
  | cons a xs ih =>
    simp [Written.values?, Written.value?, h a (by simp), ih (fun b hb => h b (by simp [hb]))]

/-- Items are laid out as their texts joined by commas. -/
theorem Written.itemChars_eq_intercalate :
    ∀ ws : List Written, Written.itemChars ws = [','].intercalate (ws.map Written.chars)
  | [] => rfl
  | [w] => by simp [Written.itemChars]
  | w :: w' :: ws => by
    simp only [Written.itemChars, Written.itemChars_eq_intercalate (w' :: ws), List.map_cons,
      List.intercalate_cons_cons, List.append_assoc, List.singleton_append]

/-- The text of a written list: the texts of its items joined by commas, in brackets. -/
theorem Written.text_list (ws : List Written) :
    String.ofList (Written.list ws).chars =
      "[" ++ ",".intercalate (ws.map fun w => String.ofList w.chars) ++ "]" := by
  apply String.ext
  simp [Written.chars, Written.itemChars_eq_intercalate, String.toList_intercalate,
    Function.comp_def]

/-- The text of a written token is the token. -/
theorem Written.text_token (t : Token) : String.ofList (Written.token t).chars = t.text := by
  simp [Written.chars]

/-- The text of a written list of tokens: the tokens joined by commas, in brackets. -/
theorem Written.text_tokens {α : Type} (f : α → Token) (xs : List α) :
    String.ofList (Written.list (xs.map fun a => .token (f a))).chars =
      "[" ++ ",".intercalate (xs.map fun a => (f a).text) ++ "]" := by
  rw [Written.text_list, List.map_map]
  simp [Function.comp_def, Written.text_token]

/-! ## What the reader is given and what it returns -/

/-- Nothing a scalar can run on into: the end of the text, a comma or a bracket. -/
def Stops (rest : List Char) : Prop := ∀ c ∈ rest.head?, endsScalar c = true

theorem Stops.nil : Stops [] := by simp [Stops]

theorem Stops.cons {c : Char} (h : endsScalar c = true) (r : List Char) : Stops (c :: r) := by
  simpa [Stops] using h

/-- A scalar's run takes nothing from where it stops. -/
theorem Stops.takeWhile {rest : List Char} (h : Stops rest) :
    rest.takeWhile (fun c => !endsScalar c) = [] := by
  cases rest with
  | nil => rfl
  | cons c r => simp [h c (by simp)]

/-- A scalar's run leaves all of where it stops. -/
theorem Stops.dropWhile {rest : List Char} (h : Stops rest) :
    rest.dropWhile (fun c => !endsScalar c) = rest := by
  cases rest with
  | nil => rfl
  | cons c r => simp [h c (by simp)]

/-- Reading gave `v` and left `rest`. -/
def ReadsAs {cs : List Char} (r : Except ReadError (Literal × Rest cs)) (v : Literal)
    (rest : List Char) : Prop :=
  ∃ h, r = .ok (v, ⟨rest, h⟩)

/-! ## Tokens -/

/-- A scalar text is not empty and does not open with a quote. -/
theorem scalarValue?_cons {s : String} {v : Literal} (h : scalarValue? s = some v) :
    ∃ c cs, s.toList = c :: cs ∧ c ≠ '"' := by
  unfold scalarValue? at h
  split at h
  · rename_i htrue
    rw [beq_iff_eq.mp htrue]
    exact ⟨'T', _, rfl, by decide⟩
  · split at h
    · rename_i hfalse
      rw [beq_iff_eq.mp hfalse]
      exact ⟨'F', _, rfl, by decide⟩
    · obtain ⟨x, hx, -⟩ := Option.map_eq_some_iff.mp h
      exact readFloat?_cons hx

/-- A token that reads as a scalar opens with a character that is no quote, no bracket and no
blank. -/
theorem Token.cons {t : Token} {v : Literal} (hv : scalarValue? t.text = some v) :
    ∃ c cs, t.text.toList = c :: cs ∧ c ≠ '"' ∧ endsScalar c = false ∧
      Text.isAsciiBlank c = false := by
  obtain ⟨c, cs, hcs, hquote⟩ := scalarValue?_cons hv
  obtain ⟨hends, hblank⟩ := t.plain c (by simp [hcs])
  exact ⟨c, cs, hcs, hquote, hends, Text.isAsciiBlank_eq_false hblank⟩

theorem readScalar_token (t : Token) {v : Literal} {rest : List Char}
    (hv : scalarValue? t.text = some v) (hrest : Stops rest) :
    ReadsAs (readScalar (t.text.toList ++ rest)) v rest := by
  have hrun : ∀ c ∈ t.text.toList, (!endsScalar c) = true := by
    intro c hc
    simp [(t.plain c hc).1]
  -- the run is exactly the token: all of it runs on and the rest stops it
  have htake : (t.text.toList ++ rest).takeWhile (fun c => !endsScalar c) = t.text.toList := by
    rw [List.takeWhile_append_of_pos hrun, hrest.takeWhile, List.append_nil]
  have hdrop : (t.text.toList ++ rest).dropWhile (fun c => !endsScalar c) = rest := by
    rw [List.dropWhile_append_of_pos hrun, hrest.dropWhile]
  have htrim : Text.trimBlank (String.ofList t.text.toList) = t.text := by
    simp [Text.trimBlank, Text.trimBlankList_of_plain (fun c hc => (t.plain c hc).2)]
  rw [readScalar]
  obtain ⟨c, cs, hcs, -⟩ := scalarValue?_cons hv
  split
  · rename_i _ _ _ v' _ hval
    rw [htake, htrim, hv] at hval
    cases hval
    exact ⟨by simp [hcs], by simp only [hdrop]⟩
  · rename_i _ hnone
    exact (hnone c cs v (by rw [htake, hcs]) (by rw [htake, htrim, hv])).elim

/-! ## One step of the reader -/

theorem skipBlanks_cons {c : Char} (h : Text.isAsciiBlank c = false) (cs : List Char) :
    skipBlanks (c :: cs) = c :: cs := by
  simp [skipBlanks, h]

/-- An opening bracket hands the rest to the list reader. -/
theorem readValue_open {r t : List Char} {v : Literal} (h : ReadsAs (readItems true [] r) v t) :
    ReadsAs (readValue ('[' :: r)) v t := by
  obtain ⟨ht, hr⟩ := h
  rw [readValue]
  split
  · rename_i heq
    simp [skipBlanks_cons (by decide : Text.isAsciiBlank '[' = false)] at heq
  · rename_i c r' heq
    rw [skipBlanks_cons (by decide)] at heq
    obtain ⟨rfl, rfl⟩ := List.cons.inj heq
    rw [if_pos rfl, hr]
    exact ⟨_, rfl⟩

/-- Any other character that is no blank and no quote starts a scalar. -/
theorem readValue_scalar {c : Char} {r t : List Char} {v : Literal} (hopen : c ≠ '[')
    (hquote : c ≠ '"') (hblank : Text.isAsciiBlank c = false)
    (h : ReadsAs (readScalar (c :: r)) v t) : ReadsAs (readValue (c :: r)) v t := by
  obtain ⟨ht, hr⟩ := h
  rw [readValue]
  split
  · rename_i heq
    simp [skipBlanks_cons hblank] at heq
  · rename_i c' r' heq
    rw [skipBlanks_cons hblank] at heq
    obtain ⟨rfl, rfl⟩ := List.cons.inj heq
    rw [if_neg hopen, if_neg hquote, hr]
    exact ⟨_, rfl⟩

/-- A closing bracket right after the opening one ends an empty list. -/
theorem readItems_close (acc : List Literal) (rest : List Char) :
    ReadsAs (readItems true acc (']' :: rest)) (.list acc) rest := by
  rw [readItems]
  split
  · rename_i c t heq
    rw [skipBlanks_cons (by decide)] at heq
    obtain ⟨rfl, rfl⟩ := List.cons.inj heq
    exact ⟨_, rfl⟩
  · rename_i heq
    simp [skipBlanks_cons (by decide : Text.isAsciiBlank ']' = false)] at heq

/-- Anything but a closing bracket, and anything after a comma, is an item. -/
theorem readItems_next {first : Bool} {acc : List Literal} {c : Char} {r : List Char}
    (hclose : first = false ∨ c ≠ ']') (hblank : Text.isAsciiBlank c = false) :
    readItems first acc (c :: r) = readNext acc (c :: r) := by
  rw [readItems]
  split
  · rename_i c' t heq
    rw [skipBlanks_cons hblank] at heq
    obtain ⟨rfl, rfl⟩ := List.cons.inj heq
    rw [if_neg]
    rcases hclose with rfl | hc <;> simp_all
  · rfl

/-- An item followed by the closing bracket ends the list. -/
theorem readNext_close {acc : List Literal} {cs rest : List Char} {v : Literal}
    (h : ReadsAs (readValue cs) v (']' :: rest)) :
    ReadsAs (readNext acc cs) (.list (acc ++ [v])) rest := by
  obtain ⟨ht, hr⟩ := h
  rw [readNext, hr]
  dsimp only
  split
  · rename_i c u heq
    rw [skipBlanks_cons (by decide)] at heq
    obtain ⟨rfl, rfl⟩ := List.cons.inj heq
    exact ⟨_, rfl⟩
  · rename_i heq
    simp [skipBlanks_cons (by decide : Text.isAsciiBlank ']' = false)] at heq

/-- An item followed by a comma leaves the rest of the list to the list reader. -/
theorem readNext_comma {acc : List Literal} {cs u rest : List Char} {v w : Literal}
    (h : ReadsAs (readValue cs) v (',' :: u))
    (hrest : ReadsAs (readItems false (acc ++ [v]) u) w rest) :
    ReadsAs (readNext acc cs) w rest := by
  obtain ⟨ht, hr⟩ := h
  obtain ⟨hz, hz'⟩ := hrest
  rw [readNext, hr]
  dsimp only
  split
  · rename_i c u' heq
    rw [skipBlanks_cons (by decide)] at heq
    obtain ⟨rfl, rfl⟩ := List.cons.inj heq
    rw [if_pos rfl, hz']
    exact ⟨_, rfl⟩
  · rename_i heq
    simp [skipBlanks_cons (by decide : Text.isAsciiBlank ',' = false)] at heq


/-! ## Reading what was written -/

/-- A written literal with a value opens with a character that neither closes a list nor is a
blank. -/
theorem Written.chars_cons {w : Written} {v : Literal} (h : w.value? = some v) :
    ∃ c cs, w.chars = c :: cs ∧ c ≠ ']' ∧ Text.isAsciiBlank c = false := by
  cases w with
  | list items => exact ⟨'[', _, rfl, by decide, by decide⟩
  | token t =>
    obtain ⟨c, cs, hcs, -, hends, hblank⟩ := Token.cons h
    exact ⟨c, cs, hcs, by rintro rfl; simp [endsScalar] at hends, hblank⟩

/-- Items with values are read as items, whether or not the list may close at once. -/
theorem readItems_itemChars (first : Bool) (acc : List Literal) {w : Written} {ws : List Written}
    {v : Literal} (hv : w.value? = some v) (rest : List Char) :
    readItems first acc (Written.itemChars (w :: ws) ++ rest) =
      readNext acc (Written.itemChars (w :: ws) ++ rest) := by
  obtain ⟨c, cs, hcs, hclose, hblank⟩ := Written.chars_cons hv
  obtain ⟨tail, htail⟩ : ∃ tail, Written.itemChars (w :: ws) = w.chars ++ tail := by
    cases ws with
    | nil => exact ⟨[], by simp [Written.itemChars]⟩
    | cons w' ws => exact ⟨_, rfl⟩
  rw [htail, hcs, List.cons_append, List.cons_append]
  exact readItems_next (.inr hclose) hblank

mutual

/-- Reading the characters of a written literal, followed by anything a scalar cannot run on
into, gives the value the literal stands for and stops right after it. -/
theorem readValue_chars : ∀ (w : Written) {v : Literal} {rest : List Char},
    w.value? = some v → Stops rest → ReadsAs (readValue (w.chars ++ rest)) v rest
  | .token t, v, rest, hv, hrest => by
    obtain ⟨c, cs, hcs, hquote, hends, hblank⟩ := Token.cons hv
    have hscalar := readScalar_token t hv hrest
    rw [hcs, List.cons_append] at hscalar
    rw [Written.chars, hcs, List.cons_append]
    exact readValue_scalar (by rintro rfl; simp [endsScalar] at hends) hquote hblank hscalar
  | .list items, v, rest, hv, _ => by
    simp only [Written.value?, Option.map_eq_some_iff] at hv
    obtain ⟨vs, hvs, rfl⟩ := hv
    rw [show (Written.list items).chars ++ rest = '[' :: (Written.itemChars items ++ ']' :: rest)
      by simp [Written.chars]]
    apply readValue_open
    cases items with
    | nil =>
      simp only [Written.values?, Option.some.injEq] at hvs
      subst hvs
      exact readItems_close [] rest
    | cons w ws =>
      obtain ⟨v', us, hv', -, -⟩ := Written.values?_cons hvs
      rw [readItems_itemChars true [] hv']
      have hnext : ReadsAs (readNext [] (Written.itemChars (w :: ws) ++ ']' :: rest))
          (.list ([] ++ vs)) rest := readNext_itemChars (w :: ws) (by simp) hvs
      simpa using hnext

theorem readNext_itemChars : ∀ (ws : List Written) {acc vs : List Literal} {rest : List Char},
    ws ≠ [] → Written.values? ws = some vs →
    ReadsAs (readNext acc (Written.itemChars ws ++ ']' :: rest)) (.list (acc ++ vs)) rest
  | [], _, _, _, hne, _ => absurd rfl hne
  | [w], acc, vs, rest, _, hvs => by
    obtain ⟨v, us, hv, hus, rfl⟩ := Written.values?_cons hvs
    simp only [Written.values?, Option.some.injEq] at hus
    subst hus
    exact readNext_close (readValue_chars w hv (.cons rfl rest))
  | w :: w' :: ws, acc, vs, rest, _, hvs => by
    obtain ⟨v, us, hv, hus, rfl⟩ := Written.values?_cons hvs
    obtain ⟨v', us', hv', -, -⟩ := Written.values?_cons hus
    have hnext : ReadsAs (readNext (acc ++ [v]) (Written.itemChars (w' :: ws) ++ ']' :: rest))
        (.list (acc ++ [v] ++ us)) rest := readNext_itemChars (w' :: ws) (by simp) hus
    rw [← readItems_itemChars false _ hv'] at hnext
    rw [Written.itemChars, List.append_assoc, List.cons_append]
    exact readNext_comma (readValue_chars w hv (.cons rfl _)) (by simpa using hnext)

end

/-- A text whose body reads as one value followed only by blanks parses as that value. -/
theorem parse_of_readsAs {text : String} {v : Literal} {rest : List Char}
    (h : ReadsAs (readValue (body text).toList) v rest) (hrest : skipBlanks rest = []) :
    parse text = .ok v := by
  obtain ⟨hlen, hread⟩ := h
  unfold parse
  dsimp only
  rw [hread]
  simp [hrest]

/-- A written list is read back as a whole literal: the list of the values of its items. -/
theorem parse_list {items : List Written} {vs : List Literal}
    (h : Written.values? items = some vs) :
    parse (String.ofList (Written.list items).chars) = .ok (.list vs) := by
  have hlast : ('[' :: (Written.itemChars items ++ [']'])).getLast? = some ']' := by
    rw [← List.cons_append, List.getLast?_concat]
  have hbody : (body (String.ofList (Written.list items).chars)).toList =
      (Written.list items).chars ++ [] := by
    simp [body, Written.chars, Text.trimBlankList_ends (by decide : Text.isBlank '[' = false)
      (by decide : Text.isBlank ']' = false), hlast]
  have hreads : ReadsAs (readValue ((Written.list items).chars ++ [])) (.list vs) [] :=
    readValue_chars (.list items) (by simp [Written.value?, h]) Stops.nil
  rw [← hbody] at hreads
  exact parse_of_readsAs hreads rfl

/-! ## Number tokens -/

/-- Digits, the point, signs and the exponent mark neither end a scalar nor are blanks. -/
theorem plain_of_numeralChar {c : Char} (h : numeralChar c = true) :
    endsScalar c = false ∧ Text.isBlank c = false := by
  simp only [numeralChar, Bool.or_eq_true, beq_iff_eq] at h
  rcases h with (((hdigit | rfl) | rfl) | rfl) | rfl
  · simp only [Char.isDigit, Bool.and_eq_true, decide_eq_true_eq] at hdigit
    have hlo : 48 ≤ c.toNat := by simpa [UInt32.le_iff_toNat_le] using hdigit.1
    have hhi : c.toNat ≤ 57 := by simpa [UInt32.le_iff_toNat_le] using hdigit.2
    have hne : ∀ d : Char, d.toNat < 48 ∨ 57 < d.toNat → c ≠ d := by
      rintro d hd rfl
      omega
    refine ⟨?_, ?_⟩
    · simp [endsScalar, hne ',' (by decide), hne '[' (by decide), hne ']' (by decide)]
    · simp only [Text.isBlank]
      simp
      omega
  all_goals decide

/-- The program text of a number is a token. -/
def Token.number (x : Float) : Token where
  text := numberText x
  plain := by
    intro c hc
    unfold numberText at hc
    split at hc
    · exact plain_of_numeralChar ((by decide : NumeralText "0") c hc)
    · have hnames : ∀ d ∈ "NaN".toList ++ "inf".toList,
          endsScalar d = false ∧ Text.isBlank d = false := Token.plain_of_all (by decide)
      rcases NumeralText.render Layout.plain _ c hc with hnum | hnan | hinf
      · exact plain_of_numeralChar hnum
      · exact hnames c (List.mem_append_left _ hnan)
      · exact hnames c (List.mem_append_right _ hinf)

/-- The text of an integer is a token. -/
def Token.integer (n : Int) : Token where
  text := toString n
  plain := fun c hc => plain_of_numeralChar (NumeralText.intText n c hc)

/-- A number text that reads as a number is a scalar of that number. -/
theorem scalarValue?_of_readFloat? {s : String} {x : Float} (h : readFloat? s = some x) :
    scalarValue? s = some (.num x) := by
  -- the names of the truth values read as no number
  have htrue : s ≠ "TRUE" := by
    rintro rfl
    rw [(rfl : readFloat? "TRUE" = none)] at h
    cases h
  have hfalse : s ≠ "FALSE" := by
    rintro rfl
    rw [(rfl : readFloat? "FALSE" = none)] at h
    cases h
  simp [scalarValue?, htrue, hfalse, h]

/-! ## Records from read lists -/

/-- A list of `n` number literals holds its numbers. -/
theorem numbers?_nums {xs : List Float} {n : Nat} (hn : xs.length = n) :
    (Literal.list (xs.map .num)).numbers? n = some xs := by
  have hmap : ∀ ys : List Float, (ys.map Literal.num).mapM Literal.num? = some ys := by
    intro ys
    induction ys with
    | nil => rfl
    | cons y ys ih => simp [Literal.num?, ih]
  simp [Literal.numbers?, Literal.items?, hmap, hn]

end Literal

/-- The number a program text reads back as: both zeros read as `0`. -/
def dropZeroSign (x : Float) : Float := if x == 0 then 0.0 else x

/-- The program layout of `x` reads back as `x`. -/
def ReadsBack (x : Float) : Prop := readFloat? (Layout.plainText x) = some x

instance : DecidablePred ReadsBack := fun x =>
  inferInstanceAs (Decidable (readFloat? (Layout.plainText x) = some x))

/-- The program text of a number reads back as the number with the sign of a zero dropped. -/
theorem scalarValue?_numberText {x : Float} (h : ReadsBack x) :
    Literal.scalarValue? (numberText x) = some (.num (dropZeroSign x)) := by
  unfold numberText dropZeroSign
  split
  · rfl
  · exact Literal.scalarValue?_of_readFloat? h

end RobotProgram
