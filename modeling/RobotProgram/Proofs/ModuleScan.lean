import Mathlib
import RobotProgram.Controller.Scan
/-!
# RobotProgram.Proofs.ModuleScan

How a controller's scanner reads a text laid out as the module writer lays one out: line after
line, each opened by a line break, and each either a declaration
`\t<storage> <type> <name>:=<value>;` or a line that opens none.

Main statements:
* `declarationAt_line`: a laid-out declaration line is read as its type, its name and its
  trimmed value.
* `declarations_blank`: blanks up to a line break change nothing that is found after it, and
  `declarations_resumeAfter`: neither does where the search resumes after a declaration.
* `declarations_line`: what is found in a line followed by more lines is what the line declares
  (nothing for a line that opens no declaration), then what the lines after it declare.
* `declarations_linesText`: the declarations found in laid-out lines are those of its
  declaration lines, in order.
-/

namespace RobotProgram

namespace Text

/-! ## The characters of the layout -/

@[simp] theorem isBlank_newline : isBlank '\n' = true := by decide

@[simp] theorem isBlank_tab : isBlank '\t' = true := by decide

@[simp] theorem isBlank_space : isBlank ' ' = true := by decide

@[simp] theorem isBlank_colon : isBlank ':' = false := by decide

@[simp] theorem isBlank_semicolon : isBlank ';' = false := by decide

@[simp] theorem isWord_space : isWord ' ' = false := by decide +kernel

@[simp] theorem isWord_colon : isWord ':' = false := by decide +kernel

/-- The code points of the blanks. -/
def blankPoints : List Nat :=
  List.range' 0x09 5 ++ [0x20, 0x85, 0xA0, 0x1680] ++ List.range' 0x2000 11 ++
    [0x2028, 0x2029, 0x202F, 0x205F, 0x3000]

theorem toNat_mem_blankPoints {c : Char} (h : isBlank c = true) : c.toNat ∈ blankPoints := by
  simp only [isBlank, Bool.or_eq_true, Bool.and_eq_true, decide_eq_true_eq, beq_iff_eq] at h
  simp only [blankPoints, List.mem_append, List.mem_range'_1, List.mem_cons, List.not_mem_nil]
  omega

/-- No blank is a word character. -/
theorem isBlank_eq_false_of_isWord {c : Char} (h : isWord c = true) : isBlank c = false := by
  have hpoints : ∀ n ∈ blankPoints, inTable wordRanges n = false := by decide +kernel
  cases hb : isBlank c
  · rfl
  · have hout := hpoints c.toNat (toNat_mem_blankPoints hb)
    simp [isWord, hout] at h

end Text

namespace Scan

open Text

/-! ## Reading words -/

/-- A name or a type as the scanner reads one: a non-empty run of word characters. -/
def WordText (s : String) : Prop := s.toList ≠ [] ∧ ∀ c ∈ s.toList, isWord c = true

instance : DecidablePred WordText := fun s =>
  decidable_of_iff (s.toList ≠ [] ∧ s.toList.all isWord = true) (by simp [WordText])

/-- A word opens with no blank. -/
theorem WordText.dropWhile {w : String} (hw : WordText w) (rest : List Char) :
    (w.toList ++ rest).dropWhile isBlank = w.toList ++ rest := by
  obtain ⟨c, cs, hcs⟩ := List.exists_cons_of_ne_nil hw.1
  have hc : isBlank c = false := isBlank_eq_false_of_isWord (hw.2 c (by simp [hcs]))
  rw [hcs, List.cons_append, List.dropWhile_cons_of_neg (by simp [hc])]

theorem startsWith_append (word : String) (rest : List Char) :
    startsWith (word.toList ++ rest) word = some rest := by
  simp [startsWith]

theorem startsWith_eq_none {cs : List Char} {word : String} (h : ¬ word.toList <+: cs) :
    startsWith cs word = none := by
  unfold startsWith
  rw [if_neg]
  intro heq
  exact h (List.prefix_iff_eq_take.2 (beq_iff_eq.1 heq).symm)

theorem blanks1_blank {c : Char} (hc : isBlank c = true) (cs : List Char) :
    blanks1 (c :: cs) = some (cs.dropWhile isBlank) := by
  simp [blanks1, hc]

/-- A word is read whole when no word character follows it. -/
theorem word1_append {w : String} (hw : WordText w) {rest : List Char}
    (hrest : ∀ c ∈ rest.head?, isWord c = false) :
    word1 (w.toList ++ rest) = some (w, rest) := by
  have htake : rest.takeWhile isWord = [] := by
    cases rest with
    | nil => rfl
    | cons c cs => simp [hrest c rfl]
  have hdrop : rest.dropWhile isWord = rest := by
    cases rest with
    | nil => rfl
    | cons c cs => simp [hrest c rfl]
  unfold word1
  rw [List.takeWhile_append_of_pos hw.2, htake, List.append_nil,
    List.dropWhile_append_of_pos hw.2, hdrop]
  simp [hw.1]

/-! ## Reading a value -/

/-- What may follow a line: the end of the text, or a line break. -/
def AtLineEnd (rest : List Char) : Prop := ∀ c ∈ rest.head?, c = '\n'

theorem AtLineEnd.nil : AtLineEnd [] := by simp [AtLineEnd]

theorem AtLineEnd.newline (rest : List Char) : AtLineEnd ('\n' :: rest) := by simp [AtLineEnd]

theorem endsLine_of_atLineEnd {rest : List Char} (h : AtLineEnd rest) : endsLine rest = true := by
  cases rest with
  | nil => rfl
  | cons c cs =>
    obtain rfl : c = '\n' := h c rfl
    simp [endsLine]

/-- A `;` with more of the line after it does not end a declaration. -/
theorem endsLine_semicolon {u : List Char} (hu : '\n' ∉ u) (w : List Char) :
    endsLine (u ++ ';' :: w) = false := by
  have htake : '\n' ∉ (u ++ ';' :: w).takeWhile isBlank := by
    rw [List.takeWhile_append]
    split
    · simpa using hu
    · exact fun h => hu ((List.takeWhile_prefix isBlank).sublist.subset h)
  have hdrop : ((u ++ ';' :: w).dropWhile isBlank).isEmpty = false := by
    rw [List.isEmpty_eq_false_iff, ne_eq, List.dropWhile_eq_nil_iff]
    intro hall
    simpa using hall ';' (by simp)
  simp [endsLine, htake, hdrop]

/-- The value runs up to the first `;` that ends the line. -/
theorem findValue_append (acc : List Char) {v : List Char} (hv : '\n' ∉ v) {rest : List Char}
    (hrest : endsLine rest = true) :
    findValue acc (v ++ ';' :: rest) = some (acc.reverse ++ v, rest) := by
  induction v generalizing acc with
  | nil => simp [findValue, hrest]
  | cons c v ih =>
    have hc : c ≠ '\n' := fun h => hv (by simp [h])
    have hv' : '\n' ∉ v := fun h => hv (List.mem_cons_of_mem c h)
    rw [List.cons_append, findValue, if_neg hc, if_neg (by simp [endsLine_semicolon hv']),
      ih (c :: acc) hv']
    simp

/-- Leading blanks change nothing that trimming gives. -/
theorem trimBlank_dropWhile (cs : List Char) :
    trimBlank (String.ofList (cs.dropWhile isBlank)) = trimBlank (String.ofList cs) := by
  simp [trimBlank, trimBlankList, List.dropWhile_idempotent]

/-! ## Declaration lines -/

/-- A declaration as the module writer lays one out, on a line of its own after a tab:
`<storage> <type> <name>:=<value>;`. -/
structure DeclarationLine where
  storage : String
  dataType : String
  name : String
  value : String

namespace DeclarationLine

/-- The storage classes the writer declares with. -/
def storages : List String := ["CONST", "VAR", "PERS", "TASK PERS"]

/-- The text of the line, without the line break that opens it. -/
def text (d : DeclarationLine) : String :=
  "\t" ++ d.storage ++ " " ++ d.dataType ++ " " ++ d.name ++ ":=" ++ d.value ++ ";"

/-- What the scanner reads from the line: the type, the name and the trimmed value. -/
def read (d : DeclarationLine) : String × String × String :=
  (d.dataType, d.name, trimBlank d.value)

/-- A line the scanner reads whole: one of the writer's storage classes, a type and a name made
of word characters, and a value that stays on the line. -/
structure Laid (d : DeclarationLine) : Prop where
  storage : d.storage ∈ storages
  dataType : WordText d.dataType
  name : WordText d.name
  value : '\n' ∉ d.value.toList

end DeclarationLine

/-- A laid-out declaration line is read as its type, its name and its trimmed value, and the
search resumes where the line ends. -/
theorem declarationAt_line {d : DeclarationLine} (hd : d.Laid) {rest : List Char}
    (hrest : AtLineEnd rest) :
    declarationAt (d.text.toList ++ rest) = some (d.read, resumeAfter rest) := by
  obtain ⟨hstorage, htype, hname, hvalue⟩ := hd
  -- the value, from its first non-blank character up to the `;` that ends the line
  have hvalue' : '\n' ∉ d.value.toList.dropWhile isBlank :=
    fun h => hvalue ((List.dropWhile_suffix isBlank).subset h)
  have hfind : findValue [] ((d.value.toList ++ ';' :: rest).dropWhile isBlank) =
      some (d.value.toList.dropWhile isBlank, rest) := by
    have hsplit : (d.value.toList ++ ';' :: rest).dropWhile isBlank =
        d.value.toList.dropWhile isBlank ++ ';' :: rest := by
      rw [List.dropWhile_append]
      split
      · rename_i hnil
        rw [List.isEmpty_iff.1 hnil, List.nil_append, List.dropWhile_cons_of_neg (by simp)]
      · rfl
    rw [hsplit, findValue_append [] hvalue' (endsLine_of_atLineEnd hrest)]
    rfl
  have hchars : d.text.toList ++ rest = '\t' :: (d.storage.toList ++ ' ' :: (d.dataType.toList ++
      ' ' :: (d.name.toList ++ ':' :: '=' :: (d.value.toList ++ ';' :: rest)))) := by
    unfold DeclarationLine.text
    simp
  have hread : d.read = (d.dataType, d.name, trimBlank (String.ofList
      (d.value.toList.dropWhile isBlank))) := by
    rw [trimBlank_dropWhile, String.ofList_toList]
    rfl
  -- the type and the name are read whole, up to the blank and the `:=` that follow them
  have htype' : word1 (d.dataType.toList ++ ' ' :: (d.name.toList ++ ':' :: '=' ::
      (d.value.toList ++ ';' :: rest))) = some (d.dataType, ' ' :: (d.name.toList ++ ':' :: '=' ::
      (d.value.toList ++ ';' :: rest))) := word1_append htype (by simp)
  have hname' : word1 (d.name.toList ++ ':' :: '=' :: (d.value.toList ++ ';' :: rest)) =
      some (d.name, ':' :: '=' :: (d.value.toList ++ ';' :: rest)) := word1_append hname (by simp)
  rw [hchars, hread]
  simp only [DeclarationLine.storages, List.mem_cons, List.not_mem_nil, or_false] at hstorage
  rcases hstorage with h | h | h | h <;> rw [h] <;> unfold declarationAt <;>
    simp +decide [startsWith, blanks1_blank, htype.dropWhile, hname.dropWhile, htype', hname',
      hfind]

/-! ## Where the search goes on -/

theorem startsWith_length {cs r : List Char} {word : String} (h : startsWith cs word = some r) :
    r.length ≤ cs.length := by
  unfold startsWith at h
  dsimp only at h
  split at h
  · cases h
    simp
  · cases h

/-- Either of two readings that both keep within a length keeps within it. -/
theorem orElse_length {a b : Option (List Char)} {n : Nat} (ha : ∀ r ∈ a, r.length ≤ n)
    (hb : ∀ r ∈ b, r.length ≤ n) {r : List Char} (h : (a <|> b) = some r) :
    r.length ≤ n := by
  cases a with
  | some r₁ =>
    cases h
    exact ha _ rfl
  | none => exact hb r h

theorem blanks1_length {cs r : List Char} (h : blanks1 cs = some r) : r.length ≤ cs.length := by
  unfold blanks1 at h
  split at h
  · split at h
    · cases h
      exact (List.dropWhile_suffix isBlank).length_le
    · cases h
  · cases h

theorem word1_length {cs r : List Char} {w : String} (h : word1 cs = some (w, r)) :
    r.length ≤ cs.length := by
  unfold word1 at h
  dsimp only at h
  split at h
  · cases h
  · cases h
    exact (List.dropWhile_suffix isWord).length_le

/-- A value ends at a `;`, so what follows it is shorter than what it was read from. -/
theorem findValue_length {acc cs v t : List Char} (h : findValue acc cs = some (v, t)) :
    t.length < cs.length := by
  induction cs generalizing acc with
  | nil => cases h
  | cons c cs ih =>
    unfold findValue at h
    split at h
    · cases h
    · split at h
      · cases h
        simp
      · exact Nat.lt_succ_of_lt (ih h)

theorem resumeAfter_length (t : List Char) : (resumeAfter t).length ≤ t.length := by
  unfold resumeAfter
  split
  · simp
  · dsimp only
    split
    · simp
    · exact Nat.le_refl _

/-- A declaration that is found ends before the text does, so the search goes on in a shorter
text. -/
theorem declarationAt_length {cs next : List Char} {d : String × String × String}
    (h : declarationAt cs = some (d, next)) : next.length < cs.length := by
  have hdrop : (cs.dropWhile isBlank).length ≤ cs.length :=
    (List.dropWhile_suffix isBlank).length_le
  have hstorage : ∀ {r r' : List Char}, (startsWith r "CONST" <|> startsWith r "VAR" <|>
      startsWith r "PERS") = some r' → r'.length ≤ r.length := fun h =>
    orElse_length (fun _ => startsWith_length)
      (fun _ => orElse_length (fun _ => startsWith_length) (fun _ => startsWith_length)) h
  unfold declarationAt at h
  simp only [Option.bind_eq_bind, Option.pure_def] at h
  -- past an optional `LOCAL` or `TASK`, both ways go on with the same reading from `r`
  split at h
  all_goals
    simp only [Option.bind_eq_some_iff] at h
    obtain ⟨r, hr, r₁, h₁, r₂, h₂, ⟨dataType, r₃⟩, h₃, r₄, h₄, ⟨name, r₅⟩, h₅, h⟩ := h
    have hstart : r.length ≤ cs.length := by
      first
      | cases hr; exact hdrop
      | rename_i hprefix
        exact (blanks1_length hr).trans ((orElse_length (fun _ => startsWith_length)
          (fun _ => startsWith_length) hprefix).trans hdrop)
    -- the type and the name
    have hname : r₅.length ≤ cs.length := by
      have := hstorage h₁
      have := blanks1_length h₂
      have := word1_length h₃
      have := blanks1_length h₄
      have := word1_length h₅
      simp only at *
      omega
    have hblank : (r₅.dropWhile isBlank).length ≤ r₅.length :=
      (List.dropWhile_suffix isBlank).length_le
    -- the value, or none, ends at a `;`
    dsimp only at h
    split at h
    · rename_i afterAssign hassign
      simp only [Option.bind_eq_some_iff, Option.some.injEq, Prod.mk.injEq] at h
      obtain ⟨⟨value, t⟩, hvalue, -, rfl⟩ := h
      have := findValue_length hvalue
      have := startsWith_length hassign
      have := (List.dropWhile_suffix isBlank (l := afterAssign)).length_le
      have := resumeAfter_length t
      dsimp only
      omega
    · split at h
      · rename_i t hsemicolon
        split at h
        · simp only [Option.some.injEq, Prod.mk.injEq] at h
          obtain ⟨-, rfl⟩ := h
          have := resumeAfter_length t
          have := congrArg List.length hsemicolon
          simp only [List.length_cons] at this
          omega
        · cases h
      · cases h

/-! ## The search line by line -/

theorem declarations_of_some {cs next : List Char} {d : String × String × String}
    (h : declarationAt cs = some (d, next)) : declarations cs = d :: declarations next := by
  rw [declarations, h]
  exact if_pos (declarationAt_length h)

theorem declarations_of_none {cs rest : List Char} (h : declarationAt cs = none)
    (hnext : nextLine cs = some rest) : declarations cs = declarations rest := by
  rw [declarations]
  simp only [h]
  split
  · simp_all
  · simp_all

theorem declarations_of_none_end {cs : List Char} (h : declarationAt cs = none)
    (hnext : nextLine cs = none) : declarations cs = [] := by
  rw [declarations]
  simp only [h]
  split
  · simp_all
  · rfl

/-- The search only looks past the blanks that open the text. -/
theorem declarationAt_dropWhile (cs : List Char) :
    declarationAt (cs.dropWhile isBlank) = declarationAt cs := by
  unfold declarationAt
  rw [List.dropWhile_idempotent]

theorem nextLine_append {l : List Char} (hl : '\n' ∉ l) (rest : List Char) :
    nextLine (l ++ '\n' :: rest) = some rest := by
  have hnot : ∀ c ∈ l, (c != '\n') = true := fun c hc => by
    simpa using fun h : c = '\n' => hl (h ▸ hc)
  unfold nextLine
  rw [List.dropWhile_append_of_pos hnot, List.dropWhile_cons_of_neg (by simp)]

theorem nextLine_eq_none {l : List Char} (hl : '\n' ∉ l) : nextLine l = none := by
  have hnot : ∀ c ∈ l, (c != '\n') = true := fun c hc => by
    simpa using fun h : c = '\n' => hl (h ▸ hc)
  unfold nextLine
  rw [List.dropWhile_eq_nil_iff.2 hnot]

/-- Past a run of blanks and a line break, the next line is what follows the first line break of
the run. -/
theorem nextLine_blank (b rest : List Char) :
    nextLine (b ++ '\n' :: rest) = some (match b.dropWhile (· != '\n') with
      | [] => rest
      | _ :: b₂ => b₂ ++ '\n' :: rest) := by
  unfold nextLine
  rw [List.dropWhile_append]
  cases h : b.dropWhile (· != '\n') with
  | nil => simp
  | cons c b₂ => simp

/-- Blanks up to a line break change nothing that is found after it. -/
theorem declarations_blank (b : List Char) (hb : ∀ c ∈ b, isBlank c = true) (rest : List Char) :
    declarations (b ++ '\n' :: rest) = declarations rest := by
  induction hn : b.length using Nat.strong_induction_on generalizing b with
  | _ n ih =>
    have hat : declarationAt (b ++ '\n' :: rest) = declarationAt rest := by
      rw [← declarationAt_dropWhile, List.dropWhile_append_of_pos hb,
        List.dropWhile_cons_of_pos (by simp), declarationAt_dropWhile]
    cases h : declarationAt rest with
    | some p => rw [declarations_of_some (hat.trans h), declarations_of_some h]
    | none =>
      rw [declarations_of_none (hat.trans h) (nextLine_blank b rest)]
      -- the next line starts after the first line break of the blanks, or after the run
      split
      · rfl
      · rename_i c b₂ hsplit
        have hsuffix : (c :: b₂) <:+ b := hsplit ▸ List.dropWhile_suffix _
        exact ih b₂.length (by have := hsuffix.length_le; simp at this; omega) b₂
          (fun x hx => hb x (hsuffix.subset (List.mem_cons_of_mem c hx))) rfl

/-- Nothing is found in blanks. -/
theorem declarations_of_blank (cs : List Char) (h : ∀ c ∈ cs, isBlank c = true) :
    declarations cs = [] := by
  induction hn : cs.length using Nat.strong_induction_on generalizing cs with
  | _ n ih =>
    by_cases hnl : '\n' ∈ cs
    · obtain ⟨b, rest, rfl⟩ := List.append_of_mem hnl
      rw [declarations_blank b (fun c hc => h c (by simp [hc])) rest]
      exact ih rest.length (by simp at hn; omega) rest (fun c hc => h c (by simp [hc])) rfl
    · have hat : declarationAt cs = none := by
        rw [← declarationAt_dropWhile, List.dropWhile_eq_nil_iff.2 h]
        rfl
      exact declarations_of_none_end hat (nextLine_eq_none hnl)

/-- Where the search resumes after a declaration changes nothing that is found. -/
theorem declarations_resumeAfter (t : List Char) :
    declarations (resumeAfter t) = declarations t := by
  unfold resumeAfter
  split
  · rename_i hempty
    rw [declarations_of_blank t (List.dropWhile_eq_nil_iff.1 (List.isEmpty_iff.1 hempty))]
    exact declarations_of_blank [] (by simp)
  · dsimp only
    split
    · -- the search resumes after a line break among the blanks that follow
      rename_i c i hlast
      obtain ⟨hget, hc⟩ := List.mem_filter.1 (List.mem_of_getLast? hlast)
      rw [List.mem_zipIdx_iff_getElem?] at hget
      obtain rfl : c = '\n' := by simpa using hc
      have hrun := List.takeWhile_prefix isBlank (l := t)
      obtain ⟨hi, hnewline⟩ := List.getElem?_eq_some_iff.1 hget
      have hi' : i < t.length := lt_of_lt_of_le hi hrun.length_le
      have hsplit : t = t.take i ++ '\n' :: t.drop (i + 1) := by
        conv => lhs; rw [← List.take_append_drop i t]
        rw [List.drop_eq_getElem_cons hi', ← hrun.getElem hi, hnewline]
      have hblank : ∀ x ∈ t.take i, isBlank x = true := by
        intro x hx
        have htake : t.take i = (t.takeWhile isBlank).take i := by
          obtain ⟨u, hu⟩ := hrun
          conv => lhs; rw [← hu]
          exact List.take_append_of_le_length hi.le
        rw [htake] at hx
        exact List.mem_takeWhile_imp (List.mem_of_mem_take hx)
      conv => rhs; rw [hsplit]
      rw [declarations_blank _ hblank]
    · rfl

/-! ## Lines that open no declaration -/

/-- The words a declaration opens with. -/
def keywords : List String := ["LOCAL", "TASK", "CONST", "VAR", "PERS"]

/-- A line that opens no declaration: it holds no line break, and past its leading blanks it
starts with none of the words a declaration opens with. -/
def Inert (line : List Char) : Prop :=
  '\n' ∉ line ∧ ∀ k ∈ keywords, ¬ k.toList <+: line.dropWhile isBlank

instance : DecidablePred Inert := fun _ => inferInstanceAs (Decidable (_ ∧ _))

/-- A text that starts with none of the words a declaration opens with holds none. -/
theorem declarationAt_eq_none {cs : List Char}
    (h : ∀ k ∈ keywords, ¬ k.toList <+: cs.dropWhile isBlank) : declarationAt cs = none := by
  unfold declarationAt
  simp [startsWith_eq_none (h _ (by simp [keywords] : "LOCAL" ∈ keywords)),
    startsWith_eq_none (h _ (by simp [keywords] : "TASK" ∈ keywords)),
    startsWith_eq_none (h _ (by simp [keywords] : "CONST" ∈ keywords)),
    startsWith_eq_none (h _ (by simp [keywords] : "VAR" ∈ keywords)),
    startsWith_eq_none (h _ (by simp [keywords] : "PERS" ∈ keywords))]

/-- A line that opens, past its leading blanks, with a character no declaration word opens with
opens no declaration, as long as it stays on its line. -/
theorem Inert.of_head {line rest : List Char} {c : Char}
    (hline : line.dropWhile isBlank = c :: rest) (hc : ∀ k ∈ keywords, k.toList.head? ≠ some c)
    (hnl : '\n' ∉ line) : Inert line := by
  refine ⟨hnl, fun k hk hprefix => hc k hk ?_⟩
  rw [hline] at hprefix
  obtain ⟨t, ht⟩ := hprefix
  cases hks : k.toList with
  | nil => exact absurd hks ((by decide : ∀ k ∈ keywords, k.toList ≠ []) k hk)
  | cons a as =>
    rw [hks, List.cons_append, List.cons.injEq] at ht
    rw [ht.1]
    rfl

/-- A word that does not open a text, and does not hold the character that follows the text,
does not open the text with that character after it either. -/
theorem not_prefix_append {k u rest : List Char} {c : Char} (hk : ¬ k <+: u) (hc : c ∉ k)
    (hrest : ∀ x ∈ rest.head?, x = c) : ¬ k <+: u ++ rest := by
  intro h
  by_cases hlen : k.length ≤ u.length
  · exact hk (List.prefix_of_prefix_length_le h (List.prefix_append u rest) hlen)
  · -- the word would reach the character after the text
    cases rest with
    | nil => exact hk (by simpa using h)
    | cons x rest =>
      obtain rfl : x = c := hrest x rfl
      have hu : u.length < k.length := by omega
      have hat := h.getElem hu
      rw [List.getElem_append_right (Nat.le_refl _)] at hat
      simp only [Nat.sub_self, List.getElem_cons_zero] at hat
      exact hc (hat ▸ List.getElem_mem hu)

/-- A line that opens no declaration adds nothing to what the lines after it declare. -/
theorem declarations_inert {line : List Char} (hl : Inert line) {rest : List Char}
    (hrest : AtLineEnd rest) : declarations (line ++ rest) = declarations rest := by
  obtain ⟨hnl, hkeywords⟩ := hl
  by_cases hblank : ∀ c ∈ line, isBlank c = true
  · -- a blank line
    cases rest with
    | nil =>
      rw [List.append_nil, declarations_of_blank line hblank, declarations_of_blank [] (by simp)]
    | cons c rest =>
      obtain rfl : c = '\n' := hrest c rfl
      rw [declarations_blank line hblank, ← declarations_blank [] (by simp) rest, List.nil_append]
  · -- a line with a first word that opens no declaration
    have hdrop : (line ++ rest).dropWhile isBlank = line.dropWhile isBlank ++ rest := by
      rw [List.dropWhile_append, if_neg]
      simpa [List.dropWhile_eq_nil_iff] using hblank
    have hat : declarationAt (line ++ rest) = none := by
      refine declarationAt_eq_none fun k hk => ?_
      rw [hdrop]
      exact not_prefix_append (hkeywords k hk) (by revert k; decide) hrest
    cases rest with
    | nil =>
      rw [List.append_nil] at hat ⊢
      rw [declarations_of_none_end hat (nextLine_eq_none hnl), declarations_of_blank [] (by simp)]
    | cons c rest =>
      obtain rfl : c = '\n' := hrest c rfl
      rw [declarations_of_none hat (nextLine_append hnl rest),
        ← declarations_blank [] (by simp) rest, List.nil_append]

/-! ## Laid-out lines -/

/-- A line of a laid-out text: a declaration, or a line that opens none. -/
inductive Line where
  | declaration (d : DeclarationLine)
  | plain (text : String)

namespace Line

/-- The text of the line, without the line break that opens it. -/
def text : Line → String
  | .declaration d => d.text
  | .plain t => t

/-- What the scanner reads from the line. -/
def reads : Line → List (String × String × String)
  | .declaration d => [d.read]
  | .plain _ => []

/-- The line is read as what it is: a declaration read whole, or a line that opens none. -/
def Laid : Line → Prop
  | .declaration d => d.Laid
  | .plain t => Inert t.toList

end Line

/-- Lines, each opened by a line break. -/
def linesText (ls : List Line) : List Char := ls.flatMap fun l => '\n' :: l.text.toList

@[simp] theorem linesText_nil : linesText [] = [] := rfl

@[simp] theorem linesText_cons (l : Line) (ls : List Line) :
    linesText (l :: ls) = '\n' :: (l.text.toList ++ linesText ls) := rfl

theorem linesText_append (ls ls' : List Line) :
    linesText (ls ++ ls') = linesText ls ++ linesText ls' := by
  simp [linesText]

theorem atLineEnd_linesText (ls : List Line) : AtLineEnd (linesText ls) := by
  cases ls with
  | nil => exact AtLineEnd.nil
  | cons l ls => exact AtLineEnd.newline _

/-- What is found in a line followed by more lines is what the line declares, then what the
lines after it declare. -/
theorem declarations_line {l : Line} (hl : l.Laid) {rest : List Char} (hrest : AtLineEnd rest) :
    declarations (l.text.toList ++ rest) = l.reads ++ declarations rest := by
  cases l with
  | declaration d =>
    rw [Line.text, declarations_of_some (declarationAt_line hl hrest), declarations_resumeAfter]
    rfl
  | plain t => exact declarations_inert hl hrest

/-- The declarations found in laid-out lines are those of its declaration lines, in order. -/
theorem declarations_linesText (ls : List Line) (hls : ∀ l ∈ ls, l.Laid) :
    declarations (linesText ls) = ls.flatMap Line.reads := by
  induction ls with
  | nil => exact declarations_of_blank [] (by simp)
  | cons l ls ih =>
    rw [linesText_cons, ← List.nil_append ('\n' :: _), declarations_blank [] (by simp),
      declarations_line (hls l (by simp)) (atLineEnd_linesText ls),
      ih fun x hx => hls x (List.mem_cons_of_mem l hx), List.flatMap_cons]

end Scan

end RobotProgram
