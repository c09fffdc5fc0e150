import Mathlib.Data.List.InsertIdx
import RobotProgram.Proofs.Splicing
/-!
# RobotProgram.Proofs.SortedSplice

Splicing at indices that never decrease. A splice places its items one after another, each at
its index shifted by the number of items placed before it. When the indices never decrease,
every item placed before lies in front of the original element the next index names, so the
shift is exactly right: the result is the sequence with all items inserted at once against the
original positions (`insertAll`). An item whose index names an original element goes right
before it, after the items placed there earlier; an item whose index is past the end goes at
the end, in order.

The proof follows one placement (`spliceOne_insertAll`) and then the run of them
(`placeAll_insertAll`). One placement is an induction on the original sequence
(`insertIdx_insertFrom`), numbering its elements from a base that grows by one at each step.

Main statement: `insertAtIndex_sorted`.
-/

namespace RobotProgram

variable {α : Type}

/-! ## Inserting at once -/

/-- The items that placements put right before original element `j`, in their order. -/
def placedBefore (placed : List (Nat × α)) (j : Nat) : List α :=
  (placed.filter fun p => p.1 = j).map Prod.snd

/-- The items that placements put at the end of a sequence of `n` elements, in their order. -/
def placedPast (placed : List (Nat × α)) (n : Nat) : List α :=
  (placed.filter fun p => n ≤ p.1).map Prod.snd

/-- The elements of `s`, numbered from `base`, each preceded by the items placed before it, then
the items placed past the end. -/
def insertFrom (s : List α) (placed : List (Nat × α)) (base : Nat) : List α :=
  ((s.zipIdx base).flatMap fun (x, j) => placedBefore placed j ++ [x]) ++
    placedPast placed (base + s.length)

/-- Inserting every item at once against the original positions of `s`: each placement is an
index and an item; the items of index `j < s.length` go right before `s[j]`, those of a larger
index at the end, in both cases in the order of the placements. -/
def insertAll (s : List α) (placed : List (Nat × α)) : List α :=
  (s.zipIdx.flatMap fun (x, j) => placedBefore placed j ++ [x]) ++ placedPast placed s.length

theorem insertAll_eq_insertFrom (s : List α) (placed : List (Nat × α)) :
    insertAll s placed = insertFrom s placed 0 := by
  simp [insertAll, insertFrom]

@[simp] theorem insertFrom_nil (placed : List (Nat × α)) (base : Nat) :
    insertFrom [] placed base = placedPast placed base := by
  simp [insertFrom]

theorem insertFrom_cons (x : α) (s : List α) (placed : List (Nat × α)) (base : Nat) :
    insertFrom (x :: s) placed base =
      placedBefore placed base ++ x :: insertFrom s placed (base + 1) := by
  simp only [insertFrom, List.zipIdx_cons, List.flatMap_cons, List.length_cons, List.append_assoc,
    List.cons_append, List.nil_append]
  rw [Nat.add_comm s.length 1, Nat.add_assoc]

/-- Without placements nothing is inserted. -/
theorem insertAll_nil_placed (s : List α) : insertAll s [] = s := by
  rw [insertAll_eq_insertFrom]
  suffices h : ∀ base, insertFrom s [] base = s from h 0
  induction s with
  | nil => simp [placedPast]
  | cons x s ih => intro base; simp [insertFrom_cons, placedBefore, ih]

/-! ## Counting placements -/

/-- The placements at or past `base` are those at `base` and those past it. -/
theorem length_filter_le_succ (placed : List (Nat × α)) (base : Nat) :
    (placed.filter fun p => base ≤ p.1).length =
      (placed.filter fun p => p.1 = base).length + (placed.filter fun p => base + 1 ≤ p.1).length := by
  induction placed with
  | nil => rfl
  | cons p placed ih =>
    -- the head counts on the left exactly when it counts in one of the two parts on the right
    simp only [List.filter_cons, decide_eq_true_eq]
    by_cases heq : p.1 = base
    · rw [if_pos (by omega : base ≤ p.1), if_pos heq, if_neg (by omega : ¬ base + 1 ≤ p.1),
        List.length_cons, List.length_cons, ih]
      omega
    · by_cases hle : base ≤ p.1
      · rw [if_pos hle, if_neg heq, if_pos (by omega : base + 1 ≤ p.1), List.length_cons,
          List.length_cons, ih]
        omega
      · rw [if_neg hle, if_neg heq, if_neg (by omega : ¬ base + 1 ≤ p.1), ih]

/-- Inserting at once adds every placement at or past the base. -/
theorem length_insertFrom (s : List α) (placed : List (Nat × α)) (base : Nat) :
    (insertFrom s placed base).length =
      s.length + (placed.filter fun p => base ≤ p.1).length := by
  induction s generalizing base with
  | nil => simp [placedPast]
  | cons x s ih =>
    rw [insertFrom_cons, List.length_append, List.length_cons, ih, length_filter_le_succ placed base,
      placedBefore, List.length_map, List.length_cons]
    omega

/-! ## One more placement -/

/-- Inserting into the part after a prefix. -/
theorem insertIdx_append_length (pre rest : List α) (m : Nat) (x : α) :
    (pre ++ rest).insertIdx (pre.length + m) x = pre ++ rest.insertIdx m x := by
  induction pre with
  | nil => simp
  | cons y pre ih =>
    rw [List.length_cons, Nat.add_right_comm, List.cons_append, List.insertIdx_succ_cons, ih,
      List.cons_append]

/-- A placement below the base is not seen. -/
theorem insertFrom_append_below (s : List α) (placed : List (Nat × α)) {i base : Nat}
    (hi : i < base) (x : α) : insertFrom s (placed ++ [(i, x)]) base = insertFrom s placed base := by
  induction s generalizing base with
  | nil =>
    have hnot : ¬ base ≤ i := by omega
    simp [placedPast, hnot]
  | cons y s ih =>
    have hne : i ≠ base := by omega
    rw [insertFrom_cons, insertFrom_cons, ih (by omega)]
    simp [placedBefore, hne]

/-- A placement past the end of the sequence is appended. -/
theorem insertFrom_append_past (s : List α) (placed : List (Nat × α)) {i base : Nat}
    (hi : base + s.length ≤ i) (x : α) :
    insertFrom s (placed ++ [(i, x)]) base = insertFrom s placed base ++ [x] := by
  induction s generalizing base with
  | nil =>
    have hle : base ≤ i := by simpa using hi
    simp [placedPast, hle]
  | cons y s ih =>
    have hne : i ≠ base := by simp at hi; omega
    rw [insertFrom_cons, insertFrom_cons, ih (by simp at hi; omega)]
    simp [placedBefore, hne]

/-- A placement within the sequence, at an index no smaller than any placed before, goes right
before the element it names: after the originals before that element and after every placement
at or past the base. The induction is on the sequence, with the base moving along. -/
theorem insertIdx_insertFrom (s : List α) (placed : List (Nat × α)) {i base : Nat}
    (hplaced : ∀ p ∈ placed, p.1 ≤ i) (hbase : base ≤ i) (hi : i ≤ base + s.length) (x : α) :
    (insertFrom s placed base).insertIdx ((i - base) + (placed.filter fun p => base ≤ p.1).length) x =
      insertFrom s (placed ++ [(i, x)]) base := by
  induction s generalizing base with
  | nil =>
    have hib : i = base := by simp at hi; omega
    subst hib
    have hlen : (placedPast placed i).length = (placed.filter fun p => i ≤ p.1).length := by
      simp [placedPast]
    simp only [insertFrom_nil, Nat.sub_self, Nat.zero_add, ← hlen, List.insertIdx_length_self]
    simp [placedPast]
  | cons y s ih =>
    rw [insertFrom_cons, insertFrom_cons]
    by_cases hib : i = base
    · -- every placement so far is at the base: the item closes the run placed before `y`
      subst hib
      have hbefore : (placed.filter fun p => i ≤ p.1).length = (placedBefore placed i).length := by
        rw [placedBefore, List.length_map]
        congr 1
        apply List.filter_congr
        intro p hp
        have := hplaced p hp
        simp only [decide_eq_decide]
        omega
      rw [Nat.sub_self, Nat.zero_add, hbefore, ← Nat.add_zero (placedBefore placed i).length,
        insertIdx_append_length, List.insertIdx_zero, insertFrom_append_below s placed (Nat.lt_succ_self i)]
      simp [placedBefore]
    · -- the item lies past `y`: it goes into the rest, numbered from the next base
      have hrest := @ih (base + 1) (by omega) (by simp at hi; omega)
      have hpos : (i - base) + (placed.filter fun p => base ≤ p.1).length =
          (placedBefore placed base).length + 1 +
            ((i - (base + 1)) + (placed.filter fun p => base + 1 ≤ p.1).length) := by
        rw [length_filter_le_succ, placedBefore, List.length_map]
        omega
      rw [hpos, ← List.singleton_append, ← List.append_assoc,
        show (placedBefore placed base).length + 1 = (placedBefore placed base ++ [y]).length by simp,
        insertIdx_append_length, hrest]
      simp [placedBefore, hib]

/-- One placement of the splice, made after placements at indices no larger than its own, keeps
the result the insertion at once of all placements so far. -/
theorem spliceOne_insertAll (s : List α) (placed : List (Nat × α)) {i : Nat}
    (hplaced : ∀ p ∈ placed, p.1 ≤ i) (x : α) :
    spliceOne (insertAll s placed) placed.length i x = insertAll s (placed ++ [(i, x)]) := by
  have hall : (placed.filter fun p => 0 ≤ p.1) = placed := List.filter_eq_self.mpr (by simp)
  have hlen : (insertAll s placed).length = s.length + placed.length := by
    rw [insertAll_eq_insertFrom, length_insertFrom, hall]
  unfold spliceOne
  rw [hlen]
  by_cases hi : i ≤ s.length
  · -- within the sequence: the shifted index is the right position
    rw [if_pos ⟨by omega, by omega⟩, insertAll_eq_insertFrom, insertAll_eq_insertFrom]
    have h := insertIdx_insertFrom s placed hplaced (Nat.zero_le i) (by omega) x
    rwa [Nat.sub_zero, hall] at h
  · -- past the end: appended
    rw [if_neg (by omega), insertAll_eq_insertFrom, insertAll_eq_insertFrom,
      insertFrom_append_past s placed (by omega)]

/-- The run of placements at non-decreasing indices, after placements at indices no larger than
any of them, gives the insertion at once of all placements. -/
theorem placeAll_insertAll (s : List α) (rest placed : List (Nat × α))
    (hsorted : (rest.map Prod.fst).Pairwise (· ≤ ·)) (hbelow : ∀ p ∈ placed, ∀ q ∈ rest, p.1 ≤ q.1) :
    placeAll (insertAll s placed) (rest.zipIdx placed.length) = insertAll s (placed ++ rest) := by
  induction rest generalizing placed with
  | nil => simp
  | cons q rest ih =>
    obtain ⟨i, x⟩ := q
    rw [List.map_cons, List.pairwise_cons] at hsorted
    have hstep := spliceOne_insertAll s placed (fun p hp => hbelow p hp (i, x) (by simp)) x
    -- the placement just made is at an index no larger than any still to come
    have hnext : ∀ p ∈ placed ++ [(i, x)], ∀ q ∈ rest, p.1 ≤ q.1 := by
      intro p hp q hq
      rcases List.mem_append.mp hp with hp | hp
      · exact hbelow p hp q (List.mem_cons_of_mem _ hq)
      · rw [List.mem_singleton.mp hp]
        exact hsorted.1 q.1 (List.mem_map_of_mem hq)
    have hrest := ih (placed ++ [(i, x)]) hsorted.2 hnext
    rw [List.length_append, List.length_singleton] at hrest
    rw [List.zipIdx_cons, placeAll_cons, hstep, hrest, List.append_assoc, List.singleton_append]

/-- A splice at indices that never decrease inserts the stretched items at once against the
original positions: the `k`-th item right before the original element its index names, after
the items placed there for smaller `k`, or at the end, in order, when its index is past the
last element. -/
theorem insertAtIndex_sorted {s items : List α} {indices : List Nat} (hitems : items ≠ [])
    (hsorted : indices.Pairwise (· ≤ ·)) :
    ∃ stretched, broadcast items indices.length "items" = .ok stretched ∧
      insertAtIndex s items indices = .ok (insertAll s (indices.zip stretched)) := by
  obtain ⟨stretched, hstretch⟩ := broadcast_isOk "items" (.inl hitems : items ≠ [] ∨ _)
  refine ⟨stretched, hstretch, ?_⟩
  have hfst : (indices.zip stretched).map Prod.fst = indices :=
    List.map_fst_zip (le_length_of_broadcast hstretch)
  have hrun := placeAll_insertAll s (indices.zip stretched) [] (by rw [hfst]; exact hsorted)
    (by simp)
  rw [insertAll_nil_placed, List.nil_append] at hrun
  rw [insertAtIndex_eq_map, hstretch]
  exact congrArg Except.ok hrun

/-- Six original elements and two items stretched over five indices that repeat, reach the last
element and pass the end. -/
theorem insertAtIndex_sorted_repeated_and_past_end :
    (["x", "y"] : List String) ≠ [] ∧ ([0, 0, 3, 6, 9] : List Nat).Pairwise (· ≤ ·) ∧
      ∃ stretched, broadcast ["x", "y"] 5 "items" = .ok stretched ∧
        insertAtIndex ["a", "b", "c", "d", "e", "f"] ["x", "y"] [0, 0, 3, 6, 9] =
          .ok (insertAll ["a", "b", "c", "d", "e", "f"] ([0, 0, 3, 6, 9].zip stretched)) :=
  ⟨by decide, by decide,
    @insertAtIndex_sorted String ["a", "b", "c", "d", "e", "f"] ["x", "y"] [0, 0, 3, 6, 9]
      (by decide) (by decide)⟩

example : insertAll ["a", "b", "c", "d", "e", "f"]
    [(0, "x"), (0, "y"), (3, "x"), (6, "y"), (9, "x")] =
      ["x", "y", "a", "b", "c", "x", "d", "e", "f", "y", "x"] := by decide

end RobotProgram
