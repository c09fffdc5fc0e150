import Mathlib.Data.List.Chain
import Mathlib.Data.Nat.ModEq
import RobotProgram.Tracking.Window
/-!
# RobotProgram.Proofs.Unwrapping

What an unwrapper makes of a sequence of ring offsets. Each offset below the one before it
counts a lap, and the position of an offset is the ring's size times the laps counted so far,
plus the offset, reduced modulo the word (`positions_eq_mapIdx`): the lap count and the
position are machine words.

While the ring's size times one more than the laps of the whole sequence fits in a word, no
position wraps (`positions_eq_mapIdx_of_fits`). Then along the sequence the positions never go
down, and they go up at every backward jump, where the lap just counted outweighs the offset
lost (`positions_advance`). A ring of `wordSize - 1` slots passes the word on its second lap,
and its position falls back to the start (`positions_fall_back_past_word`).

Both facts are carried by the state after an offset: the offset itself and the laps so far, from
which the next call's position follows (`position_after`, `position_after_of_fits`).

Main statement: `unwrapped_positions`.
-/

namespace RobotProgram

namespace Unwrapper

/-- The number of backward jumps in a sequence of offsets: the places where an offset is below
the one before it. -/
def backJumps : List Nat → Nat
  | a :: b :: rest => (if b < a then 1 else 0) + backJumps (b :: rest)
  | _ => 0

/-- The positions an unwrapper gives the offsets, one call after another. -/
def positions (u : Unwrapper) (window : Nat) : List Nat → List Nat
  | [] => []
  | o :: os => (u.position o window).2 :: positions (u.position o window).1 window os

/-- How one pair of offset and position follows another along a sequence: the position is not
lower, and it is higher when the offset has jumped back. -/
def Advances (prev next : Nat × Nat) : Prop :=
  prev.2 ≤ next.2 ∧ (next.1 < prev.1 → prev.2 < next.2)

/-- A fresh unwrapper puts its first offset at its own position. -/
theorem position_fresh (o window : Nat) :
    ({} : Unwrapper).position o window = (⟨some o, 0⟩, o % wordSize) := by
  simp [position]

/-- The step lemma: after offset `last` with `laps` laps counted, offset `o` leaves a lap count
that is, as a word, `laps` plus one exactly when `o` is below `last`, and is placed at that many
rings plus `o`. -/
theorem position_after (last laps o window : Nat) :
    ∃ laps', (⟨some last, laps⟩ : Unwrapper).position o window =
        (⟨some o, laps'⟩, (laps' * window + o) % wordSize) ∧
      laps' ≡ laps + (if o < last then 1 else 0) [MOD wordSize] := by
  by_cases hback : o < last
  · refine ⟨(laps + 1) % wordSize, by simp [position, hback], ?_⟩
    simp only [hback, if_true]
    exact Nat.mod_modEq _ _
  · refine ⟨laps, by simp [position, hback], ?_⟩
    simp only [hback, if_false, Nat.add_zero]
    exact Nat.ModEq.refl _

/-- The step lemma while the laps after `o` and one more ring fit in a word: the lap count is
exactly `laps` plus one at a backward jump, and the position is exact. -/
theorem position_after_of_fits {last laps o window : Nat} (ho : o < window)
    (hfits : (laps + (if o < last then 1 else 0) + 1) * window ≤ wordSize) :
    (⟨some last, laps⟩ : Unwrapper).position o window =
      (⟨some o, laps + if o < last then 1 else 0⟩,
        (laps + if o < last then 1 else 0) * window + o) := by
  have hlaps : laps + (if o < last then 1 else 0) < wordSize :=
    Nat.lt_of_lt_of_le (Nat.lt_succ_self _) (Nat.le_trans (Nat.le_mul_of_pos_right _ (by omega)) hfits)
  have hposition : (laps + (if o < last then 1 else 0)) * window + o < wordSize := by
    rw [Nat.add_one_mul] at hfits
    omega
  by_cases hback : o < last
  · simp only [hback, if_true] at hlaps hposition ⊢
    simp [position, hback, Nat.mod_eq_of_lt hlaps, Nat.mod_eq_of_lt hposition]
  · simp only [hback, if_false, Nat.add_zero] at hposition ⊢
    simp [position, hback, Nat.mod_eq_of_lt hposition]

/-- A prefix has no more backward jumps than the whole sequence. -/
theorem backJumps_take_le (os : List Nat) (n : Nat) : backJumps (os.take n) ≤ backJumps os := by
  induction os generalizing n with
  | nil => simp
  | cons a rest ih =>
    -- a prefix of two entries or more starts with the same pair as the whole list
    match n, rest with
    | 0, _ => simp [backJumps]
    | _ + 1, [] => simp
    | 1, _ :: _ => simp [backJumps]
    | m + 2, b :: rest =>
      have hrest := ih (m + 1)
      simp only [List.take_succ_cons] at hrest ⊢
      simp only [backJumps]
      omega

/-! ## Positions in closed form -/

/-- The run lemma of the closed form: from offset `last` with `laps` laps counted, the `k`-th
position adds the backward jumps up to offset `k`, as a word. The induction carries the lap
count only modulo the word, which is all a position modulo the word depends on. -/
theorem positions_from (last laps window : Nat) (os : List Nat) :
    positions ⟨some last, laps⟩ window os =
      os.mapIdx fun k o => (window * (laps + backJumps (last :: os.take (k + 1))) + o) % wordSize := by
  induction os generalizing last laps with
  | nil => rfl
  | cons o rest ih =>
    obtain ⟨laps', hposition, hlaps⟩ := position_after last laps o window
    -- a lap count congruent to `laps` plus the jump gives the same positions
    have hshift : ∀ y o', (window * (laps' + y) + o') % wordSize =
        (window * (laps + ((if o < last then 1 else 0) + y)) + o') % wordSize := by
      intro y o'
      rw [← Nat.add_assoc]
      exact ((hlaps.add_right y).mul_left window).add_right o'
    rw [positions, hposition, ih, List.mapIdx_cons]
    congr 1
    · simpa [backJumps, Nat.mul_comm] using hshift 0 o
    · simp only [List.take_succ_cons, backJumps, hshift]

/-- The `k`-th position of a fresh unwrapper is the ring's size times the backward jumps up to
offset `k`, plus that offset, as a word. -/
theorem positions_eq_mapIdx (window : Nat) (offsets : List Nat) :
    positions {} window offsets =
      offsets.mapIdx fun k o => (window * backJumps (offsets.take (k + 1)) + o) % wordSize := by
  cases offsets with
  | nil => rfl
  | cons o rest =>
    rw [positions, position_fresh, positions_from, List.mapIdx_cons]
    simp [backJumps]

example : positions {} 3 [2, 0, 1, 1, 0, 2] = [2, 3, 4, 4, 6, 8] := by decide

/-- The exact position of offset `k` is below the ring's size times one more than the laps of
the whole sequence. -/
theorem exact_position_lt {window : Nat} {offsets : List Nat}
    (hoffsets : ∀ o ∈ offsets, o < window) (k : Nat) (hk : k < offsets.length) :
    window * backJumps (offsets.take (k + 1)) + offsets[k] < window * (backJumps offsets + 1) := by
  have hoffset := hoffsets offsets[k] (List.getElem_mem hk)
  have hlaps := Nat.mul_le_mul_left window (backJumps_take_le offsets (k + 1))
  rw [Nat.mul_succ]
  omega

/-- While the ring's size times one more than the laps of the whole sequence fits in a word, no
position wraps. -/
theorem positions_eq_mapIdx_of_fits {window : Nat} {offsets : List Nat}
    (hoffsets : ∀ o ∈ offsets, o < window) (hfits : window * (backJumps offsets + 1) ≤ wordSize) :
    positions {} window offsets =
      offsets.mapIdx fun k o => window * backJumps (offsets.take (k + 1)) + o := by
  rw [positions_eq_mapIdx]
  refine List.ext_getElem (by simp) fun k hk _ => ?_
  simp only [List.getElem_mapIdx]
  exact Nat.mod_eq_of_lt (Nat.lt_of_lt_of_le (exact_position_lt hoffsets k (by simpa using hk)) hfits)

/-! ## Positions never go back -/

/-- One call advances: a lap counted at a backward jump is worth more than the offset lost,
since the offset before it is inside the ring. -/
theorem advances_position {window last laps o : Nat} (hlast : last < window) :
    Advances (last, laps * window + last) (o, (laps + if o < last then 1 else 0) * window + o) := by
  by_cases hback : o < last
  · -- the lap counted adds a whole ring
    simp only [Advances, hback, if_true, Nat.add_mul, Nat.one_mul]
    omega
  · simp only [Advances, hback, if_false, Nat.add_zero, false_implies, and_true]
    omega

/-- The run lemma: from offset `last` at its position, the offsets that follow, all inside the
ring, advance one after another while the laps they count fit in a word. -/
theorem positions_advance {window : Nat} (os : List Nat) (hos : ∀ o ∈ os, o < window)
    {last laps : Nat} (hlast : last < window)
    (hfits : (laps + backJumps (last :: os) + 1) * window ≤ wordSize) :
    ((last, laps * window + last) :: os.zip (positions ⟨some last, laps⟩ window os)).IsChain
      Advances := by
  induction os generalizing last laps with
  | nil => exact List.isChain_singleton _
  | cons o rest ih =>
    have ho : o < window := hos o List.mem_cons_self
    have hrest : ∀ o' ∈ rest, o' < window := fun o' h => hos o' (List.mem_cons_of_mem o h)
    -- the laps counted from `o` on fit as well, and so does the ring after `o`
    have hnext : (laps + (if o < last then 1 else 0) + backJumps (o :: rest) + 1) * window ≤
        wordSize := by
      have hjumps : backJumps (last :: o :: rest) =
          (if o < last then 1 else 0) + backJumps (o :: rest) := rfl
      rw [hjumps] at hfits
      simpa only [Nat.add_assoc] using hfits
    have hroom : (laps + (if o < last then 1 else 0) + 1) * window ≤ wordSize :=
      Nat.le_trans (Nat.mul_le_mul_right window (by omega)) hnext
    rw [positions, position_after_of_fits ho hroom, List.zip_cons_cons, List.isChain_cons_cons]
    exact ⟨advances_position hlast, ih hrest ho hnext⟩

/-- Offsets inside a ring, fed to a fresh unwrapper one after another: the `k`-th position is
`window` times the backward jumps up to offset `k`, plus that offset, as a word. While `window`
times one more than the laps of the whole sequence fits in a word, that is the exact position,
and each position is at least the one before, and above it where the offset jumped back. -/
theorem unwrapped_positions (window : Nat) (offsets : List Nat)
    (hoffsets : ∀ o ∈ offsets, o < window) :
    positions {} window offsets =
        offsets.mapIdx (fun k o => (window * backJumps (offsets.take (k + 1)) + o) % wordSize) ∧
      (window * (backJumps offsets + 1) ≤ wordSize →
        positions {} window offsets =
            offsets.mapIdx (fun k o => window * backJumps (offsets.take (k + 1)) + o) ∧
          (offsets.zip (positions {} window offsets)).IsChain Advances) := by
  refine ⟨positions_eq_mapIdx window offsets, fun hfits =>
    ⟨positions_eq_mapIdx_of_fits hoffsets hfits, ?_⟩⟩
  cases offsets with
  | nil => exact List.IsChain.nil
  | cons o rest =>
    have ho : o < window := hoffsets o List.mem_cons_self
    have hword : o < wordSize :=
      Nat.lt_of_lt_of_le ho (Nat.le_trans (Nat.le_mul_of_pos_right _ (by omega)) hfits)
    -- the first offset stands at its own position, as after no lap
    have hchain := @positions_advance window rest
      (fun o' h => hoffsets o' (List.mem_cons_of_mem o h)) o 0 ho
      (by rw [Nat.zero_add, Nat.mul_comm]; exact hfits)
    rw [Nat.zero_mul, Nat.zero_add] at hchain
    rw [positions, position_fresh, Nat.mod_eq_of_lt hword, List.zip_cons_cons]
    exact hchain

/-- Offsets of a ring of three slots going round twice. -/
theorem unwrapped_positions_three_slots :
    let offsets := [2, 0, 1, 1, 0, 2]
    (∀ o ∈ offsets, o < 3) ∧
      positions {} 3 offsets =
          offsets.mapIdx (fun k o => (3 * backJumps (offsets.take (k + 1)) + o) % wordSize) ∧
        (3 * (backJumps offsets + 1) ≤ wordSize →
          positions {} 3 offsets =
              offsets.mapIdx (fun k o => 3 * backJumps (offsets.take (k + 1)) + o) ∧
            (offsets.zip (positions {} 3 offsets)).IsChain Advances) :=
  ⟨by decide, unwrapped_positions 3 [2, 0, 1, 1, 0, 2] (by decide)⟩

/-- On a ring of `wordSize - 1` slots the second lap passes the word: offsets `1, 0, 1` are
placed at `1`, `wordSize - 1` and `0`, and the third position falls below the second. -/
theorem positions_fall_back_past_word :
    positions {} (wordSize - 1) [1, 0, 1] = [1, wordSize - 1, 0] ∧
      ¬ ([1, 0, 1].zip (positions {} (wordSize - 1) [1, 0, 1])).IsChain Advances := by
  have hpositions : positions {} (wordSize - 1) [1, 0, 1] = [1, wordSize - 1, 0] := by
    simp [positions, Unwrapper.position, wordSize]
  refine ⟨hpositions, ?_⟩
  rw [hpositions]
  simp [List.isChain_cons_cons, Advances, wordSize]

end Unwrapper

end RobotProgram
