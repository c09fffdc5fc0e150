import RobotProgram.Program.Instruction
/-!
# RobotProgram.Program.Broadcast

Stretching a parameter list to the length of a target list. A list that is long enough is
left as it is (never shortened); a shorter one is extended by repeating its *first* element,
so `[a, b]` stretched to five is `[a, b, a, a, a]`. An empty list cannot be stretched: that is
an error naming the parameter, unless nothing is asked for.

The stretch walks the counters `0, 1, …, len - 1` in step with the list it builds, and appends
a copy of the first entry whenever the counter has reached that list's current end. So after
the pass at counter `i` the list is the original followed by copies of its first entry up to
length `i + 1` (`broadcastStep_stretched`, `broadcastLoop_stretched`).

Main statement: `broadcast_eq_ok`, the closed form of a successful stretch.

Splicing inserts items into a sequence at indices that refer to the sequence as the caller last
saw it. The items are stretched by `broadcast` to one per index; the `k`-th item goes to index
`i_k + k`, the index shifted by the items already inserted, when `i_k` is at most one past the
end and the shifted position is within the sequence; otherwise it is appended.
-/

namespace RobotProgram

section

variable {α : Type}

/-- One pass of the stretching loop at counter `i`: once the counter has reached the end of the
list built so far, a copy of its first entry is appended; an empty list has no entry to copy. -/
def broadcastStep (name : String) (out : List α) (i : Nat) : Except Error (List α) :=
  if i = out.length then
    match out.head? with
    | some seed => .ok (out ++ [seed])
    | none => .error (.parameterListEmpty name)
  else .ok out

/-- The passes at counters `i, i + 1, …, i + n - 1`, ending at the first failing one. -/
def broadcastLoop (name : String) : Nat → Nat → List α → Except Error (List α)
  | 0, _, out => .ok out
  | n + 1, i, out => do
    let out ← broadcastStep name out i
    broadcastLoop name n (i + 1) out

/-- The list stretched to at least `len` entries by repeating its first entry. -/
def broadcast (list : List α) (len : Nat) (name : String) : Except Error (List α) :=
  if len = 0 then .ok list else broadcastLoop name len 0 list

/-- The pass at counter `i` keeps the loop's invariant: before it the list is the original
followed by copies of the first entry up to length `i`, after it up to length `i + 1`. -/
theorem broadcastStep_stretched (name : String) (first : α) (rest : List α) (i : Nat) :
    broadcastStep name (first :: rest ++ List.replicate (i - (rest.length + 1)) first) i =
      .ok (first :: rest ++ List.replicate (i + 1 - (rest.length + 1)) first) := by
  unfold broadcastStep
  by_cases hend : rest.length + 1 ≤ i
  · -- the counter is at the end of the list: one more copy of the first entry
    have hcount : i + 1 - (rest.length + 1) = i - (rest.length + 1) + 1 := by omega
    rw [if_pos (by simp; omega), hcount, List.replicate_succ']
    simp
  · -- the counter is still inside the original list, which stays as it is
    have hnone : i - (rest.length + 1) = 0 := by omega
    have hnone' : i + 1 - (rest.length + 1) = 0 := by omega
    rw [if_neg (by simp; omega), hnone, hnone']

/-- The run lemma of the loop: the passes from counter `i` on carry the invariant of
`broadcastStep_stretched` forward, one counter at a time. -/
theorem broadcastLoop_stretched (name : String) (first : α) (rest : List α) (n i : Nat) :
    broadcastLoop name n i (first :: rest ++ List.replicate (i - (rest.length + 1)) first) =
      .ok (first :: rest ++ List.replicate (i + n - (rest.length + 1)) first) := by
  induction n generalizing i with
  | zero => rfl
  | succ n ih =>
    rw [broadcastLoop, broadcastStep_stretched]
    simp only [bind, Except.bind]
    rw [ih (i + 1), Nat.add_right_comm, Nat.add_assoc]

/-- A successful stretch keeps the list and appends copies of its first entry up to `len`. -/
theorem broadcast_eq_ok (first : α) (rest : List α) (len : Nat) (name : String) :
    broadcast (first :: rest) len name
      = .ok (first :: rest ++ List.replicate (len - (rest.length + 1)) first) := by
  unfold broadcast
  split
  · rename_i hzero
    simp [hzero]
  · have hstart := broadcastLoop_stretched name first rest len 0
    simpa using hstart

/-- An empty list stretches only to length zero: the first pass finds no entry to copy. -/
theorem broadcast_nil (len : Nat) (name : String) :
    broadcast ([] : List α) len name =
      if len = 0 then .ok [] else .error (.parameterListEmpty name) := by
  unfold broadcast
  cases len with
  | zero => rfl
  | succ n => rfl

/-- A stretch fails exactly for an empty list and a positive length. -/
theorem broadcast_eq_error_iff (list : List α) (len : Nat) (name : String) :
    (∃ e, broadcast list len name = .error e) ↔ list = [] ∧ len ≠ 0 := by
  cases list with
  | nil => by_cases h : len = 0 <;> simp [broadcast_nil, h]
  | cons first rest => simp [broadcast_eq_ok]

end

/-- Places one item: at `index + count` when the index is at most one past the end and the
shifted position is within the sequence, else at the end.

Indices are machine words, and `index + count` as a word wraps at `2 ^ 64`; the sum of naturals
decides the same way on every sequence memory can hold. The sum matters only once
`index ≤ out.length + 1`, and `out` holds the sequence and the `count` items placed before, so
a wrap needs a sequence `s` with `s.length + 2 * count ≥ 2 ^ 64 - 1`. -/
def spliceOne {α : Type} (out : List α) (count index : Nat) (item : α) : List α :=
  if index ≤ out.length + 1 ∧ index + count ≤ out.length then out.insertIdx (index + count) item
  else out ++ [item]

/-- Inserts the stretched items at the indices, in order. -/
def insertAtIndex {α : Type} (sequence items : List α) (indices : List Nat) :
    Except Error (List α) := do
  let items ← broadcast items indices.length "items"
  pure <| ((indices.zip items).zipIdx).foldl
    (fun out ((index, item), count) => spliceOne out count index item) sequence

/-- Inserts statements with the given bodies into a list of instruction texts. -/
def insertInstructions (instructions bodies : List String) (indices : List Nat) :
    Except Error (List String) :=
  insertAtIndex instructions (bodies.map statement) indices

end RobotProgram
