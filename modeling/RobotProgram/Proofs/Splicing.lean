import Mathlib.Data.List.InsertIdx
import Mathlib.Data.List.Perm.Basic
import RobotProgram.Program.Broadcast
/-!
# RobotProgram.Proofs.Splicing

What a splice does to the sequence it is given. Which positions of the result hold inserted
items is seen by running the splice on tagged elements: the originals as `Sum.inl` and the
items as `Sum.inr`. The splice never looks at its elements, so the untagged run is the tagged
run with the tags forgotten (`placeAll_map`, `insertAtIndex_tagged`). One placement keeps the
originals in order and adds its item to the inserted ones (`spliceOne_inr`); a run of
placements keeps that invariant step by step (`placeAll_inr`).

Main statement: `insertAtIndex_interleaves`. A splice with a seed item (or with no indices)
succeeds; its result is one element longer per index; dropping the inserted positions leaves
the sequence as it was, in order; and the inserted elements are, up to order, the first
`indices.length` items of the stretched item list. Without a seed and with an index it fails,
naming the items. Splicing instruction bodies is the same, on their statements.

Also here: `broadcast_cycles_to_first`, the whole behaviour of stretching a list, failure
included.
-/

namespace RobotProgram

open scoped List

variable {α β : Type}

/-! ## Inserting into a list -/

/-- Inserting within a list cuts it at the index. -/
theorem insertIdx_eq_take_drop (a : α) :
    ∀ (l : List α) (i : Nat), i ≤ l.length → l.insertIdx i a = l.take i ++ a :: l.drop i
  | _, 0, _ => by simp
  | [], _ + 1, h => by simp at h
  | b :: l, i + 1, h => by
    rw [List.insertIdx_succ_cons, insertIdx_eq_take_drop a l i (by simpa using h)]
    simp

/-- An inserted element that a filter drops leaves the filtered list as it was. -/
theorem filterMap_insertIdx_of_none (f : α → Option β) {a : α} (ha : f a = none)
    {l : List α} {i : Nat} (hi : i ≤ l.length) :
    (l.insertIdx i a).filterMap f = l.filterMap f := by
  rw [insertIdx_eq_take_drop a l i hi, List.filterMap_append, List.filterMap_cons_none ha,
    ← List.filterMap_append, List.take_append_drop]

/-- The second components of a zip with a longer list: the front of that list. -/
theorem map_snd_zip_of_le {l₁ : List α} {l₂ : List β} (h : l₁.length ≤ l₂.length) :
    (l₁.zip l₂).map Prod.snd = l₂.take l₁.length := by
  rw [List.zip_eq_zip_take_min, Nat.min_eq_left h, List.take_length]
  exact List.map_snd_zip (by rw [List.length_take]; exact Nat.min_le_left _ _)

/-- The originals of a tagged list of originals are the list. -/
@[simp] theorem filterMap_getLeft?_map_inl (s : List α) :
    (s.map Sum.inl).filterMap (@Sum.getLeft? α β) = s := by
  induction s with
  | nil => rfl
  | cons a s ih => simp [ih]

/-- A tagged list of originals holds no inserted item. -/
@[simp] theorem filterMap_getRight?_map_inl (s : List α) :
    (s.map Sum.inl).filterMap (@Sum.getRight? α β) = [] := by
  simp

/-! ## One placement and a run of placements -/

/-- The placements one splice makes, one after another: each is an index, an item and the
number of items already placed. -/
def placeAll (out : List α) (steps : List ((Nat × α) × Nat)) : List α :=
  steps.foldl (fun out ((index, item), count) => spliceOne out count index item) out

@[simp] theorem placeAll_nil (out : List α) : placeAll out [] = out := rfl

@[simp] theorem placeAll_cons (out : List α) (index count : Nat) (item : α)
    (steps : List ((Nat × α) × Nat)) :
    placeAll out (((index, item), count) :: steps) =
      placeAll (spliceOne out count index item) steps := rfl

/-- A splice stretches the items, then places them. -/
theorem insertAtIndex_eq_map (s items : List α) (indices : List Nat) :
    insertAtIndex s items indices =
      (fun stretched => placeAll s (indices.zip stretched).zipIdx) <$>
        broadcast items indices.length "items" := by
  unfold insertAtIndex placeAll
  cases broadcast items indices.length "items" <;> rfl

/-- A placement adds one element, wherever it goes. -/
theorem length_spliceOne (out : List α) (count index : Nat) (item : α) :
    (spliceOne out count index item).length = out.length + 1 := by
  unfold spliceOne
  split
  · rename_i h
    exact List.length_insertIdx_of_le_length h.2 item
  · simp

/-- A placement does not look at the elements: renaming them before or after is the same. -/
theorem spliceOne_map (f : α → β) (out : List α) (count index : Nat) (item : α) :
    (spliceOne out count index item).map f = spliceOne (out.map f) count index (f item) := by
  unfold spliceOne
  rw [List.length_map]
  split
  · exact List.map_insertIdx f out _ item
  · simp

/-- Placing an inserted item keeps the originals as they are and adds the item to the
inserted ones. -/
theorem spliceOne_inr (out : List (α ⊕ α)) (count index : Nat) (x : α) :
    (spliceOne out count index (.inr x)).filterMap Sum.getLeft? = out.filterMap Sum.getLeft? ∧
      List.Perm ((spliceOne out count index (.inr x)).filterMap Sum.getRight?)
        (x :: out.filterMap Sum.getRight?) := by
  unfold spliceOne
  split
  · rename_i h
    refine ⟨filterMap_insertIdx_of_none _ rfl h.2, ?_⟩
    have hperm := (List.perm_insertIdx (Sum.inr x) out h.2).filterMap Sum.getRight?
    simpa using hperm
  · refine ⟨by simp, ?_⟩
    simp

/-- A run of placements adds one element per placement. -/
theorem length_placeAll (out : List α) (steps : List ((Nat × α) × Nat)) :
    (placeAll out steps).length = out.length + steps.length := by
  induction steps generalizing out with
  | nil => simp
  | cons step steps ih =>
    obtain ⟨⟨index, item⟩, count⟩ := step
    rw [placeAll_cons, ih, length_spliceOne, List.length_cons]
    omega

/-- A run of placements does not look at the elements. -/
theorem placeAll_map (f : α → β) (out : List α) (steps : List ((Nat × α) × Nat)) :
    (placeAll out steps).map f =
      placeAll (out.map f) (steps.map fun ((index, item), count) => ((index, f item), count)) := by
  induction steps generalizing out with
  | nil => simp
  | cons step steps ih =>
    obtain ⟨⟨index, item⟩, count⟩ := step
    simp only [placeAll_cons, List.map_cons, ih, spliceOne_map]

/-- The invariant of a run of placements of inserted items: the originals stay as they are, in
order, and the inserted ones gain the placed items. The induction is on the placements, each
step by `spliceOne_inr`. -/
theorem placeAll_inr (out : List (α ⊕ α)) (steps : List ((Nat × α) × Nat)) :
    let placed := placeAll out (steps.map fun ((index, x), count) => ((index, .inr x), count))
    placed.filterMap Sum.getLeft? = out.filterMap Sum.getLeft? ∧
      List.Perm (placed.filterMap Sum.getRight?)
        (out.filterMap Sum.getRight? ++ steps.map fun ((_, x), _) => x) := by
  induction steps generalizing out with
  | nil => simp
  | cons step steps ih =>
    obtain ⟨⟨index, x⟩, count⟩ := step
    obtain ⟨hleft, hright⟩ := spliceOne_inr out count index x
    obtain ⟨ihleft, ihright⟩ := ih (spliceOne out count index (.inr x))
    simp only [List.map_cons, placeAll_cons]
    refine ⟨ihleft.trans hleft, ?_⟩
    calc List.Perm _ ((spliceOne out count index (.inr x)).filterMap Sum.getRight? ++
            steps.map (fun ((_, x), _) => x)) := ihright
      _ ~ (x :: out.filterMap Sum.getRight?) ++ steps.map (fun ((_, x), _) => x) :=
          hright.append_right _
      _ ~ out.filterMap Sum.getRight? ++ (x :: steps.map (fun ((_, x), _) => x)) :=
          List.perm_middle.symm

/-! ## Splices -/

/-- Stretching does not look at the entries: stretching renamed entries gives the renamed
stretch. -/
theorem broadcast_map (f : α → β) (list : List α) (len : Nat) (name : String) :
    broadcast (list.map f) len name = List.map f <$> broadcast list len name := by
  cases list with
  | nil => rw [List.map_nil, broadcast_nil, broadcast_nil]; split <;> rfl
  | cons first rest =>
    simp [broadcast_eq_ok, Functor.map, Except.map]

/-- The placements of renamed items are the placements with their items renamed. -/
theorem zipIdx_zip_map (f : α → β) (indices : List Nat) (items : List α) :
    (indices.zip (items.map f)).zipIdx =
      (indices.zip items).zipIdx.map fun ((index, item), count) => ((index, f item), count) := by
  rw [List.zip_map_right, List.zipIdx_map]
  rfl

/-- What a splice of `items` into `s` at `indices` gives, seen with the originals tagged
`inl` and the items `inr`: one more element per index, the originals in their order, and the
first `indices.length` stretched items in some order. -/
def SplicedAs (s items : List α) (indices : List Nat) (tagged : List (α ⊕ α)) : Prop :=
  ∃ stretched, broadcast items indices.length "items" = .ok stretched ∧
    tagged.length = s.length + indices.length ∧
    tagged.filterMap Sum.getLeft? = s ∧
    List.Perm (tagged.filterMap Sum.getRight?) (stretched.take indices.length)

/-- A stretched list is at least as long as asked for. -/
theorem le_length_of_broadcast {items stretched : List α} {len : Nat} {name : String}
    (h : broadcast items len name = .ok stretched) : len ≤ stretched.length := by
  cases items with
  | nil =>
    rw [broadcast_nil] at h
    split at h
    · omega
    · cases h
  | cons first rest =>
    rw [broadcast_eq_ok] at h
    cases h
    simp only [List.cons_append, List.length_cons, List.length_append, List.length_replicate]
    omega

/-- A splice whose items stretch succeeds, its tagged run is spliced as `SplicedAs` says, and
the plain run is the tagged run with the tags forgotten. -/
theorem insertAtIndex_tagged {s items stretched : List α} {indices : List Nat}
    (h : broadcast items indices.length "items" = .ok stretched) :
    ∃ tagged, insertAtIndex (s.map .inl) (items.map .inr) indices = .ok tagged ∧
      insertAtIndex s items indices = .ok (tagged.map (Sum.elim id id)) ∧
      SplicedAs s items indices tagged := by
  let steps := (indices.zip stretched).zipIdx
  let tagged := placeAll (s.map .inl)
    (steps.map fun ((index, x), count) => ((index, (.inr x : α ⊕ α)), count))
  have hrun : insertAtIndex (s.map .inl) (items.map .inr) indices = .ok tagged := by
    rw [insertAtIndex_eq_map, broadcast_map, h]
    simp only [Except.map_ok, zipIdx_zip_map]
    rfl
  -- forgetting the tags renames every placed item back
  have hforget : tagged.map (Sum.elim id id) = placeAll s steps := by
    simp only [tagged, placeAll_map, List.map_map]
    congr 1
    · simp
    · conv => rhs; rw [← List.map_id steps]
      rfl
  have hplain : insertAtIndex s items indices = .ok (placeAll s steps) := by
    rw [insertAtIndex_eq_map, h]
    rfl
  obtain ⟨hleft, hright⟩ := placeAll_inr (s.map .inl) steps
  have hitems : (steps.map fun ((_, x), _) => x) = stretched.take indices.length := by
    rw [← map_snd_zip_of_le (le_length_of_broadcast h), ← List.zipIdx_map_fst 0 (indices.zip _),
      List.map_map]
    rfl
  refine ⟨tagged, hrun, hforget ▸ hplain, stretched, h, ?_, ?_, ?_⟩
  · rw [length_placeAll, List.length_map, List.length_map, List.length_zipIdx, List.length_zip,
      Nat.min_eq_left (le_length_of_broadcast h)]
  · rw [← filterMap_getLeft?_map_inl s]
    exact hleft
  · rw [← hitems, ← List.nil_append (steps.map _), ← filterMap_getRight?_map_inl s]
    exact hright

/-- Items stretch when there is a seed to repeat or nothing to stretch to. -/
theorem broadcast_isOk {items : List α} {len : Nat} (name : String) (h : items ≠ [] ∨ len = 0) :
    ∃ stretched, broadcast items len name = .ok stretched := by
  cases items with
  | nil =>
    have hlen : len = 0 := h.resolve_left (by simp)
    exact ⟨[], by rw [broadcast_nil, if_pos hlen]⟩
  | cons first rest => exact ⟨_, broadcast_eq_ok first rest len name⟩

/-- Stretching fails, naming the list, exactly when the list is empty and something is asked
for; otherwise it succeeds. With nothing asked for the list comes back as it is, and a list
with a first entry comes back followed by copies of that entry up to `len` entries: it is never
shortened, and every position from its old length on holds its first entry. -/
theorem broadcast_cycles_to_first (list : List α) (len : Nat) (name : String) :
    (broadcast list len name = .error (.parameterListEmpty name) ↔ list = [] ∧ 0 < len) ∧
    (len = 0 → broadcast list len name = .ok list) ∧
    ∀ first, list.head? = some first →
      broadcast list len name = .ok (list ++ List.replicate (len - list.length) first) := by
  cases list with
  | nil =>
    refine ⟨?_, fun hlen => by rw [broadcast_nil, if_pos hlen], fun _ h => by cases h⟩
    by_cases hlen : len = 0
    · simp [broadcast_nil, hlen]
    · simp [broadcast_nil, hlen, Nat.pos_of_ne_zero hlen]
  | cons first rest =>
    refine ⟨by simp [broadcast_eq_ok], fun hlen => by simp [broadcast_eq_ok, hlen], ?_⟩
    rintro _ ⟨⟩
    rw [broadcast_eq_ok, List.length_cons, List.cons_append]

/-- Without a seed item, a splice at some index fails, naming the items. -/
theorem insertAtIndex_nil_items (s : List α) {indices : List Nat} (h : indices ≠ []) :
    insertAtIndex s [] indices = .error (.parameterListEmpty "items") := by
  have hlen : indices.length ≠ 0 := by simpa using h
  rw [insertAtIndex_eq_map]
  simp [broadcast_nil, hlen, Functor.map, Except.map]

/-- A splice keeps the sequence and interleaves the stretched items with it: with a seed item
or no indices it succeeds, and its tagged run shows one more element per index, the originals
in their order and the first `indices.length` stretched items among the inserted positions;
without a seed it fails at any index, naming the items. Splicing instruction bodies does the
same with their statements. -/
theorem insertAtIndex_interleaves :
    (∀ {α : Type} (s items : List α) (indices : List Nat), items ≠ [] ∨ indices = [] →
      ∃ tagged, insertAtIndex (s.map .inl) (items.map .inr) indices = .ok tagged ∧
        insertAtIndex s items indices = .ok (tagged.map (Sum.elim id id)) ∧
        SplicedAs s items indices tagged) ∧
    (∀ {α : Type} (s : List α) (indices : List Nat), indices ≠ [] →
      insertAtIndex s [] indices = .error (.parameterListEmpty "items")) ∧
    (∀ (instructions bodies : List String) (indices : List Nat), bodies ≠ [] ∨ indices = [] →
      ∃ tagged, insertAtIndex (instructions.map .inl) ((bodies.map statement).map .inr)
          indices = .ok tagged ∧
        insertInstructions instructions bodies indices = .ok (tagged.map (Sum.elim id id)) ∧
        SplicedAs instructions (bodies.map statement) indices tagged) ∧
    (∀ (instructions : List String) (indices : List Nat), indices ≠ [] →
      insertInstructions instructions [] indices = .error (.parameterListEmpty "items")) := by
  refine ⟨?splice, fun s _ h => insertAtIndex_nil_items s h, ?instructions,
    fun instructions _ h => insertAtIndex_nil_items instructions h⟩
  case splice =>
    intro α s items indices h
    obtain ⟨stretched, hstretch⟩ := broadcast_isOk "items" (h.imp_right List.length_eq_zero_iff.mpr)
    exact insertAtIndex_tagged hstretch
  case instructions =>
    intro instructions bodies indices h
    have hbodies : bodies.map statement ≠ [] ∨ indices = [] := by simpa using h
    obtain ⟨stretched, hstretch⟩ :=
      broadcast_isOk "items" (hbodies.imp_right List.length_eq_zero_iff.mpr)
    exact insertAtIndex_tagged hstretch

/-- A splice at unsorted and out-of-range indices, one beyond every bound, with a single item
stretched four times; and one of instruction bodies. -/
theorem insertAtIndex_interleaves_sample :
    (([100] : List Nat) ≠ [] ∨ ([5, 0, 42, 2] : List Nat) = []) ∧
      (∃ tagged, insertAtIndex (([0, 1, 2, 3, 4, 5] : List Nat).map .inl) (([100] : List Nat).map .inr)
          [5, 0, 42, 2] = .ok tagged ∧
        insertAtIndex [0, 1, 2, 3, 4, 5] [100] [5, 0, 42, 2] = .ok (tagged.map (Sum.elim id id)) ∧
        SplicedAs [0, 1, 2, 3, 4, 5] [100] [5, 0, 42, 2] tagged) ∧
    ([5, 0, 42, 2] : List Nat) ≠ [] ∧
      insertAtIndex ([0, 1, 2] : List Nat) [] [5, 0, 42, 2] = .error (.parameterListEmpty "items") ∧
    ((["WaitTime 0.5", "Stop"] : List String) ≠ [] ∨ ([1, 0, 7] : List Nat) = []) ∧
      (∃ tagged, insertAtIndex (["MoveL p0"].map .inl) ((["WaitTime 0.5", "Stop"].map statement).map .inr)
          [1, 0, 7] = .ok tagged ∧
        insertInstructions ["MoveL p0"] ["WaitTime 0.5", "Stop"] [1, 0, 7] =
          .ok (tagged.map (Sum.elim id id)) ∧
        SplicedAs ["MoveL p0"] (["WaitTime 0.5", "Stop"].map statement) [1, 0, 7] tagged) ∧
    ([1] : List Nat) ≠ [] ∧
      insertInstructions ["MoveL p0"] [] [1] = .error (.parameterListEmpty "items") :=
  ⟨.inl (by decide), insertAtIndex_interleaves.1 _ _ _ (.inl (by decide)),
    by decide, insertAtIndex_interleaves.2.1 _ _ (by decide),
    .inl (by decide), insertAtIndex_interleaves.2.2.1 _ _ _ (.inl (by decide)),
    by decide, insertAtIndex_interleaves.2.2.2 _ _ (by decide)⟩

end RobotProgram
