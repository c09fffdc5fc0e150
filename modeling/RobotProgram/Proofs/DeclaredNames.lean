import Mathlib
import RobotProgram.Proofs.ModuleText
import RobotProgram.Proofs.Splicing
import RobotProgram.Proofs.NumberText
import RobotProgram.Job.Basic
/-!
# RobotProgram.Proofs.DeclaredNames

Which names a rendered module declares, and when each is declared once.

A compiled set declares its targets under generated names: a stem followed by the index of the
target, where the stem is the set name, or for circular moves the set name after `cir` and after
`to` (`CompiledBy`, `CompiledSet.Declares`). An instruction writes its speed and zone symbols and
its frames as given; when none has a line break it stays on its line and declares nothing. The
scanner then reads exactly the generated names from the rendered module, in order
(`names_render_pushSets`, and `Job.names_render` for a job, after its tools and work objects).
They are pairwise distinct when the stems are and no stem ends in a digit: a name then splits
back into its stem and its index (`append_toString_inj`). Distinct set names are not enough:
target 0 of the linear moves `cirx` and through-point 0 of the circular moves `x` are both
`cirx0` (`pushSets_declares_cirx0_twice`), and target 11 of a set `p` is target 1 of a set `p1`.

Main statement: `declared_names_unique`.
-/

namespace RobotProgram

open Scan Text

/-! ## How a compiled set declares its names -/

/-- How a compiled set declares its names: declaration `i` comes `i`-th and declares each stem
followed by `i`, its text is laid out so that the scanner reads exactly these names, and its
instructions declare nothing. -/
structure CompiledSet.Declares (s : CompiledSet) (stems : List String) : Prop where
  indices : s.declarations.map Declaration.index = List.range s.declarations.length
  names : ∀ d ∈ s.declarations, d.names = stems.map (· ++ toString d.index)
  laidOut : ∀ d ∈ s.declarations, ∃ ds, LaidOut d.text ds ∧ ds.map (·.2.1) = d.names
  instructions : ∀ i ∈ s.instructions, LaidOut i.text []

/-- A set whose declaration `i` is made from item `i` and `i` alone declares its names as its
declarations say. -/
theorem CompiledSet.Declares.of_zipIdx {α : Type} {stems : List String} (xs : List α)
    (decl : α → Nat → Declaration) (instructions : List Instruction)
    (hindex : ∀ x i, (decl x i).index = i)
    (hnames : ∀ x i, (decl x i).names = stems.map (· ++ toString i))
    (hlaid : ∀ x i, ∃ ds, LaidOut (decl x i).text ds ∧ ds.map (·.2.1) = (decl x i).names)
    (hinstructions : ∀ inst ∈ instructions, LaidOut inst.text []) :
    CompiledSet.Declares ⟨xs.zipIdx.map fun p => decl p.1 p.2, instructions⟩ stems where
  indices := by
    have hsnd : (Declaration.index ∘ fun p : α × Nat => decl p.1 p.2) = Prod.snd :=
      funext fun p => hindex p.1 p.2
    simp only [List.map_map, hsnd, List.zipIdx_map_snd, List.length_map, List.length_zipIdx,
      List.range_eq_range']
  names := by
    simp only [List.mem_map]
    rintro d ⟨⟨x, i⟩, -, rfl⟩
    rw [hnames, hindex]
  laidOut := by
    simp only [List.mem_map]
    rintro d ⟨⟨x, i⟩, -, rfl⟩
    exact hlaid x i
  instructions := hinstructions

/-! ## Symbols on one line

A compiled instruction writes its speed and zone symbols and its frames as they are given, so a
line break in one of them starts a new line of the module, which the scanner reads on its own.
-/

/-- A motion parameter whose symbol, where it names one, has no line break. -/
def MotionParameter.LineFree : MotionParameter → Prop
  | .level _ => True
  | .symbol name => Text.LineFree name

/-- A catalog whose symbols have no line break. -/
def MotionCatalog.LineFree (cat : MotionCatalog) : Prop := ∀ e ∈ cat.entries, Text.LineFree e.symbol

/-- A compiler whose catalogs' symbols have no line break. -/
structure TargetCompiler.LineFree (c : TargetCompiler) : Prop where
  speeds : c.speeds.LineFree
  zones : c.zones.LineFree

/-- Frames whose names have no line break. -/
def Frames.LineFree (frames : Frames) : Prop := Text.LineFree frames.tool ∧ Text.LineFree frames.wobj

instance : DecidablePred MotionParameter.LineFree
  | .level _ => isTrue trivial
  | .symbol name => inferInstanceAs (Decidable (Text.LineFree name))

instance : DecidablePred Frames.LineFree := fun _ => inferInstanceAs (Decidable (_ ∧ _))

/-- The walk for the nearest entry ends at the entry it started from or at one it has seen. -/
theorem foldl_nearerEntry_mem {value : Float} {entries : List CatalogEntry} :
    ∀ {best : Option (CatalogEntry × Float)} {e : CatalogEntry} {d : Float},
      entries.foldl (nearerEntry value) best = some (e, d) →
        (∃ d', best = some (e, d')) ∨ e ∈ entries := by
  induction entries with
  | nil => exact fun h => Or.inl ⟨_, h⟩
  | cons entry entries ih =>
    intro best e d h
    rw [List.foldl_cons] at h
    rcases ih h with ⟨d', hstep⟩ | he
    · -- one step keeps the best so far or takes the new entry
      unfold nearerEntry at hstep
      dsimp only at hstep
      split at hstep
      · split at hstep
        · cases hstep
          exact Or.inl ⟨_, rfl⟩
        · cases hstep
          exact Or.inr List.mem_cons_self
      · cases hstep
        exact Or.inr List.mem_cons_self
    · exact Or.inr (List.mem_cons_of_mem entry he)

/-- Quantizing gives the symbol of an entry of the catalog. -/
theorem quantize_mem {entries : List CatalogEntry} {value : Float} {symbol : String}
    (h : quantize entries value = .ok symbol) : ∃ e ∈ entries, e.symbol = symbol := by
  unfold quantize at h
  split at h
  · cases h
  · split at h
    · rename_i e d hfold
      cases h
      rcases foldl_nearerEntry_mem hfold with ⟨_, hnone⟩ | he
      · cases hnone
      · exact ⟨e, he, rfl⟩
    · cases h

theorem MotionParameter.resolve_lineFree {cat : MotionCatalog} (hcat : cat.LineFree)
    {p : MotionParameter} (hp : p.LineFree) {symbol : String} (h : p.resolve cat = .ok symbol) :
    Text.LineFree symbol := by
  cases p with
  | level value =>
    obtain ⟨e, he, rfl⟩ := quantize_mem h
    exact hcat e he
  | symbol name =>
    cases h
    exact hp

theorem MotionCatalog.symbolOf_lineFree {cat : MotionCatalog} (hcat : cat.LineFree)
    {p : MotionParameter} (hp : p.LineFree) : Text.LineFree (cat.symbolOf p) := by
  unfold symbolOf
  split
  · exact MotionParameter.resolve_lineFree hcat hp ‹_›
  · decide

/-- Entry `i` of a list read cyclically is one of its entries or the default level. -/
theorem cycledAt_lineFree {ps : List MotionParameter} (h : ∀ p ∈ ps, p.LineFree) (i : Nat) :
    (cycledAt ps i).LineFree := by
  cases ps with
  | nil => exact trivial
  | cons first rest =>
    simp only [cycledAt, List.getD_eq_getElem?_getD]
    cases hi : (first :: rest)[i]? with
    | none => exact h first List.mem_cons_self
    | some p => exact h p (List.mem_of_getElem? hi)

/-- A stretched list holds entries of the list only. -/
theorem mem_of_broadcast {α : Type} {xs ys : List α} {len : Nat} {name : String}
    (h : broadcast xs len name = .ok ys) {y : α} (hy : y ∈ ys) : y ∈ xs := by
  cases xs with
  | nil =>
    rw [broadcast_nil] at h
    split at h
    · cases h
      exact hy
    · cases h
  | cons first rest =>
    rw [broadcast_eq_ok] at h
    cases h
    simp only [List.cons_append, List.mem_cons, List.mem_append, List.mem_replicate] at hy
    rcases hy with rfl | hy | ⟨-, rfl⟩
    · exact List.mem_cons_self
    · exact List.mem_cons_of_mem _ hy
    · exact List.mem_cons_self

/-! ## The compilers of moves -/

namespace TargetCompiler

/-- A successful compile of moves is the reference set. -/
theorem movesReference_ok {c : TargetCompiler} {opcode : Opcode} {targets : List Target}
    {speeds zones : List MotionParameter} {setName : String} {frames : Frames} {s : CompiledSet}
    (h : c.movesReference opcode targets speeds zones setName frames = .ok s) :
    s = { declarations := targets.zipIdx.map fun (t, i) => declarationAt setName t i
          instructions := targets.zipIdx.map fun (_, i) =>
            c.instructionAt opcode setName frames speeds zones i } := by
  unfold movesReference at h
  split at h
  · cases h
  · split at h
    · cases h
    · split at h
      · cases h
      · exact (Except.ok.inj h).symm

/-- A successful compile of circular moves is the reference set. -/
theorem circlesReference_ok {c : TargetCompiler} {via dests : List CartesianPose}
    {speeds zones : List MotionParameter} {setName : String} {frames : Frames} {s : CompiledSet}
    (h : c.circlesReference via dests speeds zones setName frames = .ok s) :
    s = { declarations := (via.zip dests).zipIdx.map fun ((v, d), i) =>
            circleDeclarationAt setName v d i
          instructions := (via.zip dests).zipIdx.map fun (_, i) =>
            c.circleInstructionAt setName frames speeds zones i } := by
  unfold circlesReference at h
  split at h
  · cases h
  · split at h
    · cases h
    · split at h
      · cases h
      · split at h
        · cases h
        · exact (Except.ok.inj h).symm

section LineFree

variable {c : TargetCompiler} (hc : c.LineFree) {setName : String}
  (hname : ∀ ch ∈ setName.toList, isWord ch = true) {frames : Frames} (hframes : frames.LineFree)
  {speeds zones : List MotionParameter} (hspeeds : ∀ p ∈ speeds, p.LineFree)
  (hzones : ∀ p ∈ zones, p.LineFree)
include hc hname hframes hspeeds hzones

/-- A move of a set stays on its line, so it declares nothing. -/
theorem laidOut_instructionAt {opcode : Opcode} (hop : opcode ≠ .custom) (i : Nat) :
    LaidOut (c.instructionAt opcode setName frames speeds zones i).text [] := by
  have htext : (c.instructionAt opcode setName frames speeds zones i).text =
      "\n\t\t" ++ opcode.name ++ (" " ++ setName ++ toString i ++ "," ++
        c.speeds.symbolOf (cycledAt speeds i) ++ "," ++ c.zones.symbolOf (cycledAt zones i) ++
        "," ++ frames.tool ++ "\\WObj:=" ++ frames.wobj ++ ";") := by
    simp only [instructionAt, String.append_assoc]
  rw [htext]
  refine laidOut_move hop ?_
  simp only [lineFree_append, and_assoc]
  exact ⟨by decide, LineFree.of_word hname, lineFree_toString i, by decide,
    c.speeds.symbolOf_lineFree hc.speeds (cycledAt_lineFree hspeeds i), by decide,
    c.zones.symbolOf_lineFree hc.zones (cycledAt_lineFree hzones i), by decide, hframes.1,
    by decide, hframes.2, by decide⟩

/-- A circular move of a set stays on its line, so it declares nothing. -/
theorem laidOut_circleInstructionAt (i : Nat) :
    LaidOut (c.circleInstructionAt setName frames speeds zones i).text [] := by
  have htext : (c.circleInstructionAt setName frames speeds zones i).text =
      "\n\t\t" ++ Opcode.moveC.name ++ (" " ++ "cir" ++ setName ++ toString i ++ "," ++ "to" ++
        setName ++ toString i ++ "," ++ c.speeds.symbolOf (cycledAt speeds i) ++ "," ++
        c.zones.symbolOf (cycledAt zones i) ++ "," ++ frames.tool ++ "\\WObj:=" ++
        frames.wobj ++ ";") := by
    apply String.ext
    simp only [circleInstructionAt, Opcode.name, String.toList_append, String.reduceToList,
      List.append_assoc, List.cons_append, List.nil_append]
  rw [htext]
  refine laidOut_move (by decide) ?_
  simp only [lineFree_append, and_assoc]
  exact ⟨by decide, by decide, LineFree.of_word hname, lineFree_toString i, by decide, by decide,
    LineFree.of_word hname, lineFree_toString i, by decide,
    c.speeds.symbolOf_lineFree hc.speeds (cycledAt_lineFree hspeeds i), by decide,
    c.zones.symbolOf_lineFree hc.zones (cycledAt_lineFree hzones i), by decide, hframes.1,
    by decide, hframes.2, by decide⟩

theorem declares_movesReference {opcode : Opcode} (hop : opcode ≠ .custom) {targets : List Target}
    {s : CompiledSet} (h : c.movesReference opcode targets speeds zones setName frames = .ok s) :
    s.Declares [setName] := by
  rw [movesReference_ok h]
  refine CompiledSet.Declares.of_zipIdx targets (fun t i => declarationAt setName t i) _
    (fun _ _ => rfl) (fun _ _ => rfl) (fun t i => ⟨_, laidOut_declarationAt hname t i, rfl⟩) ?_
  simp only [List.mem_map]
  rintro inst ⟨⟨t, i⟩, -, rfl⟩
  exact laidOut_instructionAt hc hname hframes hspeeds hzones hop i

theorem declares_circlesReference {via dests : List CartesianPose} {s : CompiledSet}
    (h : c.circlesReference via dests speeds zones setName frames = .ok s) :
    s.Declares ["cir" ++ setName, "to" ++ setName] := by
  rw [circlesReference_ok h]
  refine CompiledSet.Declares.of_zipIdx (via.zip dests)
    (fun p i => circleDeclarationAt setName p.1 p.2 i) _ (fun _ _ => rfl) (fun _ _ => rfl)
    (fun p i => ⟨_, laidOut_circleDeclarationAt hname p.1 p.2 i, rfl⟩) ?_
  simp only [List.mem_map]
  rintro inst ⟨⟨p, i⟩, -, rfl⟩
  exact laidOut_circleInstructionAt hc hname hframes hspeeds hzones i

end LineFree

/-- What the successful steps of a walk give is what the walk gives, item by item. -/
theorem map_of_mapM_ok {α β γ : Type} {step : α → Except Error β} {f : β → γ} {g : α → γ}
    (hstep : ∀ x y, step x = .ok y → f y = g x) :
    ∀ {xs : List α} {ys : List β}, xs.mapM step = .ok ys → ys.map f = xs.map g
  | [], ys, h => by
    cases h
    rfl
  | x :: xs, ys, h => by
    rw [List.mapM_cons] at h
    cases hx : step x with
    | error e => simp [hx, bind, Except.bind] at h
    | ok y =>
      cases hxs : xs.mapM step with
      | error e => simp [hx, hxs, bind, Except.bind] at h
      | ok ys' =>
        simp only [hx, hxs, bind, Except.bind, pure, Except.pure, Except.ok.injEq] at h
        subst h
        rw [List.map_cons, List.map_cons, hstep x y hx, map_of_mapM_ok hstep hxs]

/-- What holds of every successful step on an item of a walk holds of every item it gives. -/
theorem forall_of_mapM_ok {α β : Type} {step : α → Except Error β} {P : β → Prop} :
    ∀ {xs : List α} {ys : List β}, (∀ x ∈ xs, ∀ y, step x = .ok y → P y) →
      xs.mapM step = .ok ys → ∀ y ∈ ys, P y
  | [], ys, _, h => by
    cases h
    simp
  | x :: xs, ys, hstep, h => by
    rw [List.mapM_cons] at h
    cases hx : step x with
    | error e => simp [hx, bind, Except.bind] at h
    | ok y =>
      cases hxs : xs.mapM step with
      | error e => simp [hx, hxs, bind, Except.bind] at h
      | ok ys' =>
        simp only [hx, hxs, bind, Except.bind, pure, Except.pure, Except.ok.injEq] at h
        subst h
        have htail := forall_of_mapM_ok (fun x' hx' => hstep x' (List.mem_cons_of_mem x hx')) hxs
        simpa [hstep x List.mem_cons_self y hx] using htail

/-- The declarations of a set of independent moves: position `i` as the number `<set><i>`; and
each of its instructions moves an axis of the unit to one of them, at the symbol of one of the
speeds. -/
theorem indAMove_ok {c : TargetCompiler} {mecUnit : String} {axes : List UInt8}
    {positions : List Float} {speeds : List MotionParameter} {setName : String} {s : CompiledSet}
    (h : c.indAMove mecUnit axes positions speeds setName = .ok s) :
    s.declarations = positions.zipIdx.map (fun (p, i) =>
      { index := i, names := [setName ++ toString i],
        text := "\n\tVAR num " ++ (setName ++ toString i) ++ ":=" ++ numberText p ++ ";" }) ∧
    ∀ inst ∈ s.instructions, ∃ axis : UInt8, ∃ p ∈ speeds, ∃ (speed : String) (i : Nat),
      p.resolve c.speeds = .ok speed ∧
      inst.text = "\n\t\tIndAMove " ++ mecUnit ++ "," ++ toString axis.toNat ++ "\\ToAbsNum:=" ++
        (setName ++ toString i) ++ "," ++ speed ++ ";" := by
  unfold indAMove at h
  split at h
  · cases h
  · simp only [bind, Except.bind] at h
    split at h
    · cases h
    · rename_i axes' haxes
      split at h
      · cases h
      · rename_i speeds' hspeeds
        split at h
        · cases h
        · rename_i entries hentries
          cases h
          -- each entry declares its position and moves its axis, whatever its speed resolves to
          have hlen : positions.length ≤ (axes'.zip speeds').length := by
            rw [List.length_zip]
            exact Nat.le_min.2 ⟨le_length_of_broadcast haxes, le_length_of_broadcast hspeeds⟩
          refine ⟨?_, ?_⟩
          · have hdecl : entries.map Prod.fst =
                (positions.zip (axes'.zip speeds')).zipIdx.map fun x =>
                  { index := x.2, names := [setName ++ toString x.2],
                    text := "\n\tVAR num " ++ (setName ++ toString x.2) ++ ":=" ++
                      numberText x.1.1 ++ ";" } := by
              refine map_of_mapM_ok ?_ hentries
              rintro ⟨⟨p, a, sp⟩, i⟩ y hy
              split at hy
              · cases hy
              · cases hy
                rfl
            rw [ofEntries]
            dsimp only
            rw [hdecl]
            conv => rhs; rw [← List.map_fst_zip hlen]
            rw [List.zipIdx_map, List.map_map]
            rfl
          · have hall : ∀ e ∈ entries, ∃ axis : UInt8, ∃ p ∈ speeds, ∃ (speed : String) (i : Nat),
                p.resolve c.speeds = .ok speed ∧
                e.2.text = "\n\t\tIndAMove " ++ mecUnit ++ "," ++ toString axis.toNat ++
                  "\\ToAbsNum:=" ++ (setName ++ toString i) ++ "," ++ speed ++ ";" := by
              refine forall_of_mapM_ok ?_ hentries
              rintro ⟨⟨p, a, sp⟩, i⟩ hx y hy
              have hsp : sp ∈ speeds := by
                have hmem := List.of_mem_zip (List.of_mem_zip (List.fst_mem_of_mem_zipIdx hx)).2
                exact mem_of_broadcast hspeeds hmem.2
              split at hy
              · cases hy
              · rename_i speed hspeed
                cases hy
                exact ⟨a, sp, hsp, speed, i, hspeed, rfl⟩
            intro inst hinst
            rw [ofEntries, List.mem_map] at hinst
            obtain ⟨e, he, rfl⟩ := hinst
            exact hall e he

theorem declares_indAMove {c : TargetCompiler} (hc : c.speeds.LineFree) {mecUnit : String}
    (hunit : Text.LineFree mecUnit) {axes : List UInt8} {positions : List Float}
    {speeds : List MotionParameter} (hspeeds : ∀ p ∈ speeds, p.LineFree) {setName : String}
    (hname : ∀ ch ∈ setName.toList, isWord ch = true) {s : CompiledSet}
    (h : c.indAMove mecUnit axes positions speeds setName = .ok s) : s.Declares [setName] := by
  obtain ⟨hdecl, hinst⟩ := indAMove_ok h
  have hs : s = ⟨s.declarations, s.instructions⟩ := rfl
  rw [hs, hdecl]
  refine CompiledSet.Declares.of_zipIdx positions (fun p i =>
      { index := i, names := [setName ++ toString i],
        text := "\n\tVAR num " ++ (setName ++ toString i) ++ ":=" ++ numberText p ++ ";" })
    _ (fun _ _ => rfl) (fun _ _ => rfl) ?_ ?_
  · intro p i
    have htext : "\n\tVAR num " ++ (setName ++ toString i) ++ ":=" ++ numberText p ++ ";" =
        "\n" ++ (DeclarationLine.mk "VAR" "num" (setName ++ toString i) (numberText p)).text := by
      apply String.ext
      unfold DeclarationLine.text
      simp only [String.toList_append, String.reduceToList, List.append_assoc, List.cons_append,
        List.nil_append]
    refine ⟨[("num", setName ++ toString i, numberText p)], ?_, rfl⟩
    rw [htext]
    exact laidOut_declarationLine ⟨by simp [DeclarationLine.storages],
      (by decide +kernel : WordText "num"), WordText.indexed hname i,
      (Blankless.numberText p).newline_not_mem⟩ (Blankless.numberText p)
  · -- each move of an axis stays on its line
    intro inst hi
    obtain ⟨axis, p, hp, speed, i, hspeed, htext⟩ := hinst inst hi
    have hrest : inst.text = "\n\t\t" ++ Opcode.indAMove.name ++ (" " ++ mecUnit ++ "," ++
        toString axis.toNat ++ "\\ToAbsNum:=" ++ setName ++ toString i ++ "," ++ speed ++ ";") := by
      rw [htext]
      apply String.ext
      simp only [Opcode.name, String.toList_append, String.reduceToList, List.append_assoc,
        List.cons_append, List.nil_append]
    rw [hrest]
    refine laidOut_move (by decide) ?_
    simp only [lineFree_append, and_assoc]
    exact ⟨by decide, hunit, by decide, lineFree_toString _, by decide, LineFree.of_word hname,
      lineFree_toString i, by decide, MotionParameter.resolve_lineFree hc (hspeeds p hp) hspeed,
      by decide⟩

end TargetCompiler

/-- A set compiled by one of the compilers of moves from speeds, zones, frames and units without
line breaks, with the stems of the names it declares: its set name, or for circular moves its
set name after `cir` and after `to`. -/
inductive CompiledBy (c : TargetCompiler) : List String → CompiledSet → Prop where
  | moveL {targets : List CartesianPose} {speeds zones : List MotionParameter} {setName : String}
      {frames : Frames} {s : CompiledSet} :
      (∀ p ∈ speeds, p.LineFree) → (∀ p ∈ zones, p.LineFree) → frames.LineFree →
      c.moveL targets speeds zones setName frames = .ok s → CompiledBy c [setName] s
  | moveJ {targets : List CartesianPose} {speeds zones : List MotionParameter} {setName : String}
      {frames : Frames} {s : CompiledSet} :
      (∀ p ∈ speeds, p.LineFree) → (∀ p ∈ zones, p.LineFree) → frames.LineFree →
      c.moveJ targets speeds zones setName frames = .ok s → CompiledBy c [setName] s
  | moveAbsJ {targets : List JointPose} {speeds zones : List MotionParameter} {setName : String}
      {frames : Frames} {s : CompiledSet} :
      (∀ p ∈ speeds, p.LineFree) → (∀ p ∈ zones, p.LineFree) → frames.LineFree →
      c.moveAbsJ targets speeds zones setName frames = .ok s → CompiledBy c [setName] s
  | moveC {via dests : List CartesianPose} {speeds zones : List MotionParameter}
      {setName : String} {frames : Frames} {s : CompiledSet} :
      (∀ p ∈ speeds, p.LineFree) → (∀ p ∈ zones, p.LineFree) → frames.LineFree →
      c.moveC via dests speeds zones setName frames = .ok s →
        CompiledBy c ["cir" ++ setName, "to" ++ setName] s
  | indAMove {mecUnit : String} {axes : List UInt8} {positions : List Float}
      {speeds : List MotionParameter} {setName : String} {s : CompiledSet} :
      Text.LineFree mecUnit → (∀ p ∈ speeds, p.LineFree) →
      c.indAMove mecUnit axes positions speeds setName = .ok s → CompiledBy c [setName] s

/-- A compiled set declares its names as `CompiledSet.Declares` says, when its stems are made of
word characters and its compiler's symbols stay on their line. -/
theorem CompiledBy.declares {c : TargetCompiler} (hc : c.LineFree) {stems : List String}
    {s : CompiledSet} (h : CompiledBy c stems s)
    (hstems : ∀ stem ∈ stems, ∀ ch ∈ stem.toList, isWord ch = true) : s.Declares stems := by
  cases h with
  | moveL hspeeds hzones hframes h =>
    unfold TargetCompiler.moveL at h
    rw [TargetCompiler.compileMoves_eq_reference] at h
    exact TargetCompiler.declares_movesReference hc (hstems _ (by simp)) hframes hspeeds hzones
      (by decide) h
  | moveJ hspeeds hzones hframes h =>
    unfold TargetCompiler.moveJ at h
    rw [TargetCompiler.compileMoves_eq_reference] at h
    exact TargetCompiler.declares_movesReference hc (hstems _ (by simp)) hframes hspeeds hzones
      (by decide) h
  | moveAbsJ hspeeds hzones hframes h =>
    unfold TargetCompiler.moveAbsJ at h
    rw [TargetCompiler.compileMoves_eq_reference] at h
    exact TargetCompiler.declares_movesReference hc (hstems _ (by simp)) hframes hspeeds hzones
      (by decide) h
  | @moveC via dests speeds zones setName frames s hspeeds hzones hframes h =>
    rw [TargetCompiler.moveC_eq_reference] at h
    have hname := hstems ("cir" ++ setName) (by simp)
    exact TargetCompiler.declares_circlesReference hc
      (fun ch hch => hname ch (by simp [String.toList_append, hch])) hframes hspeeds hzones h
  | indAMove hunit hspeeds h =>
    exact TargetCompiler.declares_indAMove hc.speeds hunit hspeeds (hstems _ (by simp)) h

/-! ## The names a module of compiled sets declares -/

theorem foldl_pushSet (sets : List CompiledSet) (m : ProgramModule) :
    sets.foldl ProgramModule.pushSet m =
      { m with declarations := m.declarations ++ sets.flatMap CompiledSet.declarationTexts,
               instructions := m.instructions ++ sets.flatMap CompiledSet.instructionTexts } := by
  induction sets generalizing m with
  | nil => simp
  | cons s sets ih =>
    rw [List.foldl_cons, ih]
    simp [ProgramModule.pushSet]

/-- Declarations laid out one after another are read with their names, in order. -/
theorem laidOut_join_names {xs : List Declaration}
    (h : ∀ d ∈ xs, ∃ ds, LaidOut d.text ds ∧ ds.map (·.2.1) = d.names) :
    ∃ ds, LaidOut (String.join (xs.map Declaration.text)) ds ∧
      ds.map (·.2.1) = xs.flatMap Declaration.names := by
  induction xs with
  | nil => exact ⟨[], LaidOut.empty, rfl⟩
  | cons d xs ih =>
    obtain ⟨ds, hd, hnames⟩ := h d (by simp)
    obtain ⟨ds', hds', hnames'⟩ := ih fun d' hd' => h d' (List.mem_cons_of_mem d hd')
    refine ⟨ds ++ ds', ?_, ?_⟩
    · rw [List.map_cons, String.join_cons]
      exact hd.append hds'
    · rw [List.map_append, hnames, hnames', List.flatMap_cons]

/-- Texts that each declare nothing declare nothing together. -/
theorem LaidOut.join_plain : ∀ {xs : List String}, (∀ x ∈ xs, LaidOut x []) →
    LaidOut (String.join xs) []
  | [], _ => LaidOut.empty
  | x :: xs, h => by
    rw [String.join_cons]
    exact (h x List.mem_cons_self).append (join_plain fun y hy => h y (List.mem_cons_of_mem x hy))

/-- Pieces that each declare one item, laid out one after another, declare the items in order. -/
theorem LaidOut.join_single {α : Type} {xs : List α} {text : α → String}
    {read : α → String × String × String} (h : ∀ x ∈ xs, LaidOut (text x) [read x]) :
    LaidOut (String.join (xs.map text)) (xs.map read) := by
  simpa only [← List.map_eq_flatMap] using LaidOut.join h

section Sets

variable {sets : List (List String × CompiledSet)} (hdeclares : ∀ p ∈ sets, p.2.Declares p.1)
include hdeclares

/-- The declarations of compiled sets, one after another, are read with the sets' names. -/
theorem laidOut_declarationTexts :
    ∃ ds, LaidOut (String.join ((sets.map Prod.snd).flatMap CompiledSet.declarationTexts)) ds ∧
      ds.map (·.2.1) = sets.flatMap fun p => p.2.declarations.flatMap Declaration.names := by
  have hdecl : ∀ d ∈ sets.flatMap (·.2.declarations),
      ∃ ds, LaidOut d.text ds ∧ ds.map (·.2.1) = d.names := by
    simp only [List.mem_flatMap]
    rintro d ⟨p, hp, hd⟩
    exact (hdeclares p hp).laidOut d hd
  obtain ⟨ds, hds, hnames⟩ := laidOut_join_names hdecl
  refine ⟨ds, ?_, by rw [hnames, List.flatMap_assoc]⟩
  simpa [CompiledSet.declarationTexts, List.flatMap_map, List.map_flatMap] using hds

/-- The instructions of compiled sets declare nothing. -/
theorem laidOut_instructionTexts :
    LaidOut (String.join ((sets.map Prod.snd).flatMap CompiledSet.instructionTexts)) [] := by
  refine LaidOut.join_plain ?_
  simp only [List.flatMap_map, List.mem_flatMap, CompiledSet.instructionTexts, List.mem_map]
  rintro _ ⟨p, hp, i, hi, rfl⟩
  exact (hdeclares p hp).instructions i hi

/-- The names the scanner reads from a module of compiled sets are the names of their
declarations, set after set. -/
theorem names_render_pushSets :
    (declarations ((sets.map Prod.snd).foldl ProgramModule.pushSet {}).render.toList).map
        (·.2.1) = sets.flatMap fun p => p.2.declarations.flatMap Declaration.names := by
  obtain ⟨ds, hds, hnames⟩ := laidOut_declarationTexts hdeclares
  have hrender := @declarations_render ((sets.map Prod.snd).foldl ProgramModule.pushSet {})
    [] [] ds ?_ ?_ ?_ ?_
  · rw [hrender, List.nil_append, List.nil_append, hnames]
  all_goals rw [foldl_pushSet]
  · exact LaidOut.empty
  · exact LaidOut.empty
  · simpa using hds
  · simpa using laidOut_instructionTexts hdeclares

end Sets

/-! ## Telling generated names apart -/

/-- The digits a name ends in are those of its index, when its stem does not end in a digit. -/
theorem takeWhile_isDigit_reverse {cs ds : List Char}
    (hcs : ∀ c ∈ cs.getLast?, c.isDigit = false) (hds : ∀ d ∈ ds, d.isDigit = true) :
    (cs ++ ds).reverse.takeWhile Char.isDigit = ds.reverse := by
  rw [List.reverse_append, List.takeWhile_append_of_pos (by simpa using hds)]
  cases hrev : cs.reverse with
  | nil => simp
  | cons c rest =>
    have hc : c ∈ cs.getLast? := by
      rw [← List.head?_reverse, hrev]
      rfl
    simp [hcs c hc]

/-- A generated name gives back its stem and its index, when no stem ends in a digit. -/
theorem append_toString_inj {stem stem' : String} {i j : Nat}
    (hstem : ∀ c ∈ stem.toList.getLast?, c.isDigit = false)
    (hstem' : ∀ c ∈ stem'.toList.getLast?, c.isDigit = false)
    (h : stem ++ toString i = stem' ++ toString j) : stem = stem' ∧ i = j := by
  have hlist := congrArg String.toList h
  simp only [String.toList_append, toList_toString_nat] at hlist
  have hdigit : ∀ k, ∀ d ∈ Nat.toDigits 10 k, d.isDigit = true := fun _ _ hd =>
    Nat.isDigit_of_mem_toDigits (by decide) (by decide) hd
  -- the digits at the end are the index on either side
  have hdigits : Nat.toDigits 10 i = Nat.toDigits 10 j := by
    have hends := congrArg (fun cs => cs.reverse.takeWhile Char.isDigit) hlist
    simpa only [takeWhile_isDigit_reverse hstem (hdigit i),
      takeWhile_isDigit_reverse hstem' (hdigit j), List.reverse_inj] using hends
  refine ⟨String.toList_inj.mp ?_, ?_⟩
  · rw [hdigits] at hlist
    exact List.append_cancel_right hlist
  · rw [← Decimal.digitsValue_toDigits i, hdigits, Decimal.digitsValue_toDigits]

/-- The stems and indices a set of `n` declarations names, index after index. -/
def indexedStems (stems : List String) (n : Nat) : List (String × Nat) :=
  (List.range n).flatMap fun i => stems.map (·, i)

theorem mem_indexedStems {stems : List String} {n : Nat} {q : String × Nat}
    (h : q ∈ indexedStems stems n) : q.1 ∈ stems := by
  simp only [indexedStems, List.mem_flatMap, List.mem_map] at h
  obtain ⟨i, -, stem, hstem, rfl⟩ := h
  exact hstem

theorem nodup_indexedStems {stems : List String} (h : stems.Nodup) (n : Nat) :
    (indexedStems stems n).Nodup := by
  rw [indexedStems, List.nodup_flatMap]
  refine ⟨fun i _ => h.map fun _ _ heq => (Prod.mk.inj heq).1,
    List.nodup_range.imp fun hne q h₁ h₂ => ?_⟩
  obtain ⟨_, _, rfl⟩ := List.mem_map.mp h₁
  obtain ⟨_, _, heq⟩ := List.mem_map.mp h₂
  exact hne (Prod.mk.inj heq).2.symm

/-- The names a set declares are its stems followed by its indices. -/
theorem CompiledSet.Declares.names_eq {s : CompiledSet} {stems : List String}
    (h : s.Declares stems) :
    s.declarations.flatMap Declaration.names =
      (indexedStems stems s.declarations.length).map fun q => q.1 ++ toString q.2 := by
  rw [indexedStems, ← h.indices, List.flatMap_map, List.map_flatMap]
  refine List.flatMap_congr fun d hd => ?_
  rw [h.names d hd, List.map_map]
  rfl

/-- The names declared by sets whose stems are pairwise distinct and end in no digit are pairwise
distinct. -/
theorem nodup_names {sets : List (List String × CompiledSet)}
    (hdeclares : ∀ p ∈ sets, p.2.Declares p.1) (hstems : (sets.flatMap Prod.fst).Nodup)
    (hdigit : ∀ stem ∈ sets.flatMap Prod.fst, ∀ c ∈ stem.toList.getLast?, c.isDigit = false) :
    (sets.flatMap fun p => p.2.declarations.flatMap Declaration.names).Nodup := by
  let pairs := sets.flatMap fun p => indexedStems p.1 p.2.declarations.length
  have hnames : (sets.flatMap fun p => p.2.declarations.flatMap Declaration.names) =
      pairs.map fun q => q.1 ++ toString q.2 := by
    rw [List.map_flatMap]
    exact List.flatMap_congr fun p hp => (hdeclares p hp).names_eq
  have hmem : ∀ q ∈ pairs, q.1 ∈ sets.flatMap Prod.fst := by
    simp only [pairs, List.mem_flatMap]
    rintro q ⟨p, hp, hq⟩
    exact ⟨p, hp, mem_indexedStems hq⟩
  -- the pairs are distinct: within a set by their index, across sets by their stem
  have hpairs : pairs.Nodup := by
    obtain ⟨hown, hacross⟩ := List.nodup_flatMap.mp hstems
    rw [List.nodup_flatMap]
    refine ⟨fun p hp => nodup_indexedStems (hown p hp) _, hacross.imp fun hdisj q h₁ h₂ => ?_⟩
    exact hdisj (mem_indexedStems h₁) (mem_indexedStems h₂)
  rw [hnames]
  refine hpairs.map_on fun q hq q' hq' heq => ?_
  obtain ⟨h₁, h₂⟩ := append_toString_inj (hdigit _ (hmem q hq)) (hdigit _ (hmem q' hq')) heq
  exact Prod.ext h₁ h₂

/-! ## Splices keep what their pieces have -/

section Splices

variable {α : Type} {P : α → Prop}

theorem forall_spliceOne {out : List α} (hout : ∀ x ∈ out, P x) (count index : Nat) {item : α}
    (hitem : P item) : ∀ x ∈ spliceOne out count index item, P x := by
  intro x hx
  unfold spliceOne at hx
  split at hx
  · rename_i h
    rcases (List.mem_insertIdx h.2).mp hx with rfl | hx
    · exact hitem
    · exact hout x hx
  · rcases List.mem_append.mp hx with hx | hx
    · exact hout x hx
    · rw [List.mem_singleton.mp hx]
      exact hitem

/-- The run lemma of the placements: every original and every placed item has `P`, so every
element of the result has it. -/
theorem forall_placeAll {out : List α} (hout : ∀ x ∈ out, P x) {steps : List ((Nat × α) × Nat)}
    (hsteps : ∀ st ∈ steps, P st.1.2) : ∀ x ∈ placeAll out steps, P x := by
  induction steps generalizing out with
  | nil => exact hout
  | cons step steps ih =>
    obtain ⟨⟨index, item⟩, count⟩ := step
    rw [placeAll_cons]
    exact ih (forall_spliceOne hout count index (hsteps _ List.mem_cons_self))
      fun st hst => hsteps st (List.mem_cons_of_mem _ hst)

/-- What every original and every item has, every element of a splice has. -/
theorem forall_insertAtIndex {s items r : List α} {indices : List Nat}
    (h : insertAtIndex s items indices = .ok r) (hs : ∀ x ∈ s, P x) (hitems : ∀ x ∈ items, P x) :
    ∀ x ∈ r, P x := by
  rw [insertAtIndex_eq_map] at h
  cases hstretch : broadcast items indices.length "items" with
  | error e => simp [hstretch, Functor.map, Except.map] at h
  | ok stretched =>
    simp only [hstretch, Functor.map, Except.map, Except.ok.injEq] at h
    subst h
    refine forall_placeAll hs fun st hst => hitems _ (mem_of_broadcast hstretch ?_)
    exact (List.of_mem_zip (List.fst_mem_of_mem_zipIdx hst)).2

end Splices

/-! ## Compiling a job -/

theorem foldl_addTool {α : Type} (text : α → String) (xs : List α) (m : ProgramModule) :
    xs.foldl (fun m x => m.addTool (text x)) m = { m with tools := m.tools ++ xs.map text } := by
  induction xs generalizing m with
  | nil => simp
  | cons x xs ih =>
    rw [List.foldl_cons, ih]
    simp [ProgramModule.addTool]

theorem foldl_addWobj {α : Type} (text : α → String) (xs : List α) (m : ProgramModule) :
    xs.foldl (fun m x => m.addWobj (text x)) m = { m with wobjs := m.wobjs ++ xs.map text } := by
  induction xs generalizing m with
  | nil => simp
  | cons x xs ih =>
    rw [List.foldl_cons, ih]
    simp [ProgramModule.addWobj]

/-- The walk over the blocks of a job: each block compiled in turn and its set pushed. -/
theorem foldlM_blocks_ok {c : TargetCompiler}
    {step : ProgramModule × List CompiledSet → Block × Nat →
      Except JobFailure (ProgramModule × List CompiledSet)}
    (hstep : ∀ acc bn r, step acc bn = .ok r →
      ∃ s, bn.1.compile c = .ok s ∧ r = (acc.1.pushSet s, acc.2 ++ [s])) :
    ∀ {blocks : List (Block × Nat)} {acc r : ProgramModule × List CompiledSet},
      blocks.foldlM step acc = .ok r →
        ∃ new, List.Forall₂ (fun bn s => bn.1.compile c = .ok s) blocks new ∧
          r = (new.foldl ProgramModule.pushSet acc.1, acc.2 ++ new)
  | [], acc, r, h => by
    cases h
    exact ⟨[], List.Forall₂.nil, by simp⟩
  | bn :: blocks, acc, r, h => by
    rw [List.foldlM_cons] at h
    cases hacc : step acc bn with
    | error e => simp [hacc, bind, Except.bind] at h
    | ok acc' =>
      simp only [hacc, bind, Except.bind] at h
      obtain ⟨s, hs, rfl⟩ := hstep acc bn acc' hacc
      obtain ⟨new, hnew, rfl⟩ := foldlM_blocks_ok hstep h
      exact ⟨s :: new, List.Forall₂.cons hs hnew, by simp⟩

/-- The walk over the insertions of a job: each replaces the instructions by a splice of
statements into them, and leaves the rest of the module as it is. -/
theorem foldlM_insertions_ok
    {step : ProgramModule → Insertion → Except JobFailure ProgramModule}
    (hstep : ∀ m ins r, step m ins = .ok r → ∃ is,
      insertInstructions m.instructions ins.statements ins.indices = .ok is ∧
        r = m.setInstructions is) :
    ∀ {insertions : List Insertion} {m r : ProgramModule}, insertions.foldlM step m = .ok r →
      r.tools = m.tools ∧ r.wobjs = m.wobjs ∧ r.declarations = m.declarations ∧
        ∀ P : String → Prop, (∀ i ∈ m.instructions, P i) →
          (∀ ins ∈ insertions, ∀ body ∈ ins.statements, P (statement body)) →
          ∀ i ∈ r.instructions, P i
  | [], m, r, h => by
    cases h
    exact ⟨rfl, rfl, rfl, fun _ hm _ => hm⟩
  | ins :: insertions, m, r, h => by
    rw [List.foldlM_cons] at h
    cases hm' : step m ins with
    | error e => simp [hm', bind, Except.bind] at h
    | ok m' =>
      simp only [hm', bind, Except.bind] at h
      obtain ⟨is, his, rfl⟩ := hstep m ins m' hm'
      obtain ⟨htools, hwobjs, hdecls, hinst⟩ := foldlM_insertions_ok hstep h
      refine ⟨htools, hwobjs, hdecls, fun P hm hins => hinst P ?_ fun ins' hins' =>
        hins ins' (List.mem_cons_of_mem ins hins')⟩
      -- the splice holds the instructions and the statements only
      refine forall_insertAtIndex his hm ?_
      simp only [List.mem_map]
      rintro _ ⟨body, hbody, rfl⟩
      exact hins ins List.mem_cons_self body hbody

/-- What a compiled job holds: its tools, then its work objects, then the declarations of the
sets of its blocks, each compiled from its block; and every instruction is one of those sets'
or an inserted statement. -/
theorem Job.compile_ok {job : Job} {c : TargetCompiler} {m : ProgramModule}
    {sets : List CompiledSet} (h : job.compile c = .ok (m, sets)) :
    m.tools = job.tools.map (fun t => Data.tool t.name t.frame t.mass) ∧
    m.wobjs = job.wobjs.map (fun w => Data.wobj w.name w.frame) ∧
    m.declarations = sets.flatMap CompiledSet.declarationTexts ∧
    List.Forall₂ (fun b s => b.compile c = .ok s) job.blocks sets ∧
    ∀ P : String → Prop, (∀ s ∈ sets, ∀ i ∈ s.instructions, P i.text) →
      (∀ ins ∈ job.insertions, ∀ body ∈ ins.statements, P (statement body)) →
      ∀ i ∈ m.instructions, P i := by
  unfold Job.compile at h
  simp only [bind, Except.bind, pure, Except.pure] at h
  split at h
  · cases h
  · rename_i r hblocks
    split at h
    · cases h
    · rename_i m' hinsertions
      cases h
      have hb := @foldlM_blocks_ok c _ ?_ _ _ _ hblocks
      · obtain ⟨new, hnew, rfl⟩ := hb
        rw [foldl_pushSet, foldl_addWobj, foldl_addTool] at hinsertions
        have hsets : List.Forall₂ (fun b s => b.compile c = .ok s) job.blocks new := by
          rw [← List.zipIdx_map_fst 0 job.blocks, List.forall₂_map_left_iff]
          exact hnew
        dsimp only at hinsertions
        have hi := @foldlM_insertions_ok _ ?_ _ _ _ hinsertions
        · obtain ⟨htools, hwobjs, hdecls, hinst⟩ := hi
          refine ⟨by simpa using htools, by simpa using hwobjs, by simpa using hdecls, hsets,
            fun P hsets hins => hinst P ?_ hins⟩
          simp only [List.nil_append, List.mem_flatMap, CompiledSet.instructionTexts, List.mem_map]
          rintro _ ⟨s, hs, i, hi, rfl⟩
          exact hsets s hs i hi
        · intro m ins r hstep
          split at hstep
          · cases hstep
            exact ⟨_, ‹_›, rfl⟩
          · cases hstep
      · intro acc bn r hstep
        split at hstep
        · cases hstep
          exact ⟨_, ‹_›, rfl⟩
        · cases hstep

/-! ## Modules of compiled sets -/

/-- Stems that the names generated from them can be told apart by. -/
structure NameStems (stems : List String) : Prop where
  /-- No stem is used twice. -/
  nodup : stems.Nodup
  /-- A stem is made of word characters, as the scanner reads names. -/
  word : ∀ stem ∈ stems, ∀ ch ∈ stem.toList, isWord ch = true
  /-- No stem ends in a digit, so the index after it can be told apart. -/
  lastNotDigit : ∀ stem ∈ stems, ∀ ch ∈ stem.toList.getLast?, ch.isDigit = false

/-- The standard catalogs write their symbols on one line: a letter and a number. -/
theorem TargetCompiler.lineFree_standard : ({} : TargetCompiler).LineFree := by
  have hprefixed : ∀ (pre : String), Text.LineFree pre → ∀ (levels : List Float),
      ∀ e ∈ levels.map (CatalogEntry.prefixed pre), Text.LineFree e.symbol := by
    intro pre hpre levels e he
    obtain ⟨level, -, rfl⟩ := List.mem_map.mp he
    exact lineFree_append.2 ⟨hpre, LineFree.of_blankless (Blankless.numberText level)⟩
  exact ⟨hprefixed "v" (by decide) _, hprefixed "z" (by decide) _⟩

/-- A module of compiled sets declares each name once, when the stems of the sets can tell
their names apart. -/
theorem pushSets_names_nodup {c : TargetCompiler} (hc : c.LineFree)
    {sets : List (List String × CompiledSet)} (hsets : ∀ p ∈ sets, CompiledBy c p.1 p.2)
    (hstems : NameStems (sets.flatMap Prod.fst)) :
    ((declarations ((sets.map Prod.snd).foldl ProgramModule.pushSet {}).render.toList).map
      (·.2.1)).Nodup := by
  have hdeclares : ∀ p ∈ sets, p.2.Declares p.1 := fun p hp =>
    (hsets p hp).declares hc fun stem hstem => hstems.word stem (List.mem_flatMap.2 ⟨p, hp, hstem⟩)
  rw [names_render_pushSets hdeclares]
  exact nodup_names hdeclares hstems.nodup hstems.lastNotDigit

/-! ## Jobs -/

/-- The stems of the names a block declares: its set name, or for circular moves its set name
after `cir` and after `to`; free statements declare none. -/
def Block.stems : Block → List String
  | .moveL m _ | .moveJ m _ | .moveAbsJ m _ => [m.setName]
  | .moveC m _ _ => ["cir" ++ m.setName, "to" ++ m.setName]
  | .custom _ => []

/-- A block whose speeds, zones and frames have no line break, or whose free statements each
stay on their line and open no declaration. -/
def Block.LineFree : Block → Prop
  | .moveL m _ | .moveJ m _ | .moveAbsJ m _ | .moveC m _ _ =>
    (∀ p ∈ m.speeds, p.LineFree) ∧ (∀ p ∈ m.zones, p.LineFree) ∧ m.frames.LineFree
  | .custom statements => ∀ body ∈ statements, Inert body.toList

instance : DecidablePred Block.LineFree
  | .moveL .. | .moveJ .. | .moveAbsJ .. | .moveC .. => inferInstanceAs (Decidable (_ ∧ _ ∧ _))
  | .custom _ => inferInstanceAs (Decidable (∀ _ ∈ _, _))

/-- A compiled block declares its names as `CompiledSet.Declares` says. -/
theorem Block.declares {c : TargetCompiler} (hc : c.LineFree) {b : Block} (hb : b.LineFree)
    (hstems : ∀ stem ∈ b.stems, ∀ ch ∈ stem.toList, isWord ch = true) {s : CompiledSet}
    (h : b.compile c = .ok s) : s.Declares b.stems := by
  cases b with
  | moveL m targets => exact (CompiledBy.moveL hb.1 hb.2.1 hb.2.2 h).declares hc hstems
  | moveJ m targets => exact (CompiledBy.moveJ hb.1 hb.2.1 hb.2.2 h).declares hc hstems
  | moveAbsJ m targets => exact (CompiledBy.moveAbsJ hb.1 hb.2.1 hb.2.2 h).declares hc hstems
  | moveC m via targets => exact (CompiledBy.moveC hb.1 hb.2.1 hb.2.2 h).declares hc hstems
  | custom statements =>
    cases h
    -- free statements declare no data, and each is a line of its own
    refine ⟨rfl, by simp [TargetCompiler.custom], by simp [TargetCompiler.custom], ?_⟩
    simp only [TargetCompiler.custom, List.mem_map]
    rintro _ ⟨⟨body, i⟩, hbody, rfl⟩
    exact laidOut_statement (hb body (List.fst_mem_of_mem_zipIdx hbody))

/-- A job whose names the compiled module declares once each: the stems of its blocks can tell
their names apart, its blocks and inserted statements stay on their lines and open no
declaration, and its tools and work objects have word names, pairwise distinct and none of
them a generated name. -/
structure Job.NamesApart (job : Job) : Prop where
  stems : NameStems (job.blocks.flatMap Block.stems)
  blocks : ∀ b ∈ job.blocks, b.LineFree
  insertions : ∀ ins ∈ job.insertions, ∀ body ∈ ins.statements, Inert body.toList
  frameWords : ∀ f ∈ job.tools ++ job.wobjs, WordText f.name
  frameNames : ((job.tools ++ job.wobjs).map FrameDeclaration.name).Nodup
  notGenerated : ∀ f ∈ job.tools ++ job.wobjs, ∀ stem ∈ job.blocks.flatMap Block.stems,
    ∀ i : Nat, f.name ≠ stem ++ toString i

/-- The compiled sets of blocks, each with the stems of its block. -/
def stemmedSets (blocks : List Block) (sets : List CompiledSet) : List (List String × CompiledSet) :=
  (blocks.zip sets).map fun q => (q.1.stems, q.2)

theorem map_snd_stemmedSets {blocks : List Block} {sets : List CompiledSet}
    (hlen : blocks.length = sets.length) : (stemmedSets blocks sets).map Prod.snd = sets := by
  rw [stemmedSets, List.map_map]
  exact List.map_snd_zip (Nat.le_of_eq hlen.symm)

theorem flatMap_fst_stemmedSets {blocks : List Block} {sets : List CompiledSet}
    (hlen : blocks.length = sets.length) :
    (stemmedSets blocks sets).flatMap Prod.fst = blocks.flatMap Block.stems := by
  rw [stemmedSets, List.flatMap_map]
  conv => rhs; rw [← List.map_fst_zip (Nat.le_of_eq hlen), List.flatMap_map]

/-- A job whose compiled module the scanner reads as the job declares it: the stems of its blocks
are made of word characters, its blocks and inserted statements stay on their lines and open no
declaration, and its tools and work objects have word names. -/
structure Job.Scannable (job : Job) : Prop where
  stems : ∀ stem ∈ job.blocks.flatMap Block.stems, ∀ ch ∈ stem.toList, isWord ch = true
  blocks : ∀ b ∈ job.blocks, b.LineFree
  insertions : ∀ ins ∈ job.insertions, ∀ body ∈ ins.statements, Inert body.toList
  frameWords : ∀ f ∈ job.tools ++ job.wobjs, WordText f.name

theorem Job.NamesApart.scannable {job : Job} (h : job.NamesApart) : job.Scannable :=
  ⟨h.stems.word, h.blocks, h.insertions, h.frameWords⟩

section Job

variable {job : Job} {c : TargetCompiler} {m : ProgramModule} {sets : List CompiledSet}

/-- The tools of a compiled job are read as their names and the values they are declared
with. -/
theorem Job.laidOut_tools (hwords : ∀ f ∈ job.tools ++ job.wobjs, WordText f.name)
    (h : job.compile c = .ok (m, sets)) :
    LaidOut (String.join m.tools)
      (job.tools.map fun t => ("tooldata", t.name, Data.toolValue t.frame t.mass)) := by
  rw [(Job.compile_ok h).1]
  exact LaidOut.join_single fun t ht =>
    laidOut_tool (hwords t (List.mem_append_left _ ht)) t.frame t.mass

/-- The work objects of a compiled job are read as their names and the values they are declared
with. -/
theorem Job.laidOut_wobjs (hwords : ∀ f ∈ job.tools ++ job.wobjs, WordText f.name)
    (h : job.compile c = .ok (m, sets)) :
    LaidOut (String.join m.wobjs) (job.wobjs.map fun w => ("wobjdata", w.name, Data.wobjValue w.frame)) := by
  rw [(Job.compile_ok h).2.1]
  exact LaidOut.join_single fun w hw =>
    laidOut_wobj (hwords w (List.mem_append_right _ hw)) w.frame

variable (hc : c.LineFree) (hscan : job.Scannable)
include hc hscan

/-- Each block of a job declares its names as `CompiledSet.Declares` says. -/
theorem declares_stemmedSets
    (hsets : List.Forall₂ (fun b s => b.compile c = .ok s) job.blocks sets) :
    ∀ p ∈ stemmedSets job.blocks sets, p.2.Declares p.1 := by
  simp only [stemmedSets, List.mem_map]
  rintro _ ⟨⟨b, s⟩, hbs, rfl⟩
  have hb := (List.of_mem_zip hbs).1
  exact Block.declares hc (hscan.blocks b hb)
    (fun stem hstem => hscan.stems stem (List.mem_flatMap.2 ⟨b, hb, hstem⟩))
    ((List.forall₂_iff_zip.1 hsets).2 hbs)

/-- The instructions of a compiled job declare nothing: each is an instruction of a set or an
inserted statement. -/
theorem Job.laidOut_instructions (h : job.compile c = .ok (m, sets)) :
    LaidOut (String.join m.instructions) [] := by
  obtain ⟨-, -, -, hsets, hinst⟩ := Job.compile_ok h
  have hsnd := map_snd_stemmedSets hsets.length_eq
  have hdeclares := declares_stemmedSets hc hscan hsets
  refine LaidOut.join_plain (hinst (fun i => LaidOut i []) ?_ fun ins hins body hbody =>
    laidOut_statement (hscan.insertions ins hins body hbody))
  intro s hs i hi
  rw [← hsnd, List.mem_map] at hs
  obtain ⟨p, hp, rfl⟩ := hs
  exact (hdeclares p hp).instructions i hi

/-- The names the scanner reads from a compiled job: its tools, its work objects, then the
names of the sets of its blocks, set after set. -/
theorem Job.names_render (h : job.compile c = .ok (m, sets)) :
    (declarations m.render.toList).map (·.2.1) =
      (job.tools ++ job.wobjs).map FrameDeclaration.name ++
        (stemmedSets job.blocks sets).flatMap fun p => p.2.declarations.flatMap Declaration.names := by
  obtain ⟨-, -, hdecls, hsets, -⟩ := Job.compile_ok h
  have hsnd := map_snd_stemmedSets hsets.length_eq
  obtain ⟨ds, hds, hnames⟩ := laidOut_declarationTexts (declares_stemmedSets hc hscan hsets)
  have hrender := declarations_render (Job.laidOut_tools hscan.frameWords h)
    (Job.laidOut_wobjs hscan.frameWords h) (by rw [hdecls, ← hsnd]; exact hds)
    (Job.laidOut_instructions hc hscan h)
  rw [hrender, List.map_append, hnames, List.map_append, List.map_append]
  simp only [List.map_map]
  rfl

end Job

/-- A compiled job declares each name once, when its names are apart. -/
theorem Job.names_nodup {job : Job} {c : TargetCompiler} (hc : c.LineFree) (hapart : job.NamesApart)
    {m : ProgramModule} {sets : List CompiledSet} (h : job.compile c = .ok (m, sets)) :
    ((declarations m.render.toList).map (·.2.1)).Nodup := by
  obtain ⟨-, -, -, hsets, -⟩ := Job.compile_ok h
  have hdeclares := declares_stemmedSets hc hapart.scannable hsets
  have hstems := flatMap_fst_stemmedSets hsets.length_eq
  have hgenerated := nodup_names hdeclares (hstems ▸ hapart.stems.nodup)
    (hstems ▸ hapart.stems.lastNotDigit)
  rw [Job.names_render hc hapart.scannable h]
  refine List.nodup_append.2 ⟨hapart.frameNames, hgenerated, ?_⟩
  -- a tool or a work object is no generated name
  intro a ha b hb
  obtain ⟨f, hf, rfl⟩ := List.mem_map.1 ha
  simp only [List.mem_flatMap] at hb
  obtain ⟨p, hp, d, hd, hb⟩ := hb
  rw [(hdeclares p hp).names d hd, List.mem_map] at hb
  obtain ⟨stem, hstem, rfl⟩ := hb
  have hstem' : stem ∈ job.blocks.flatMap Block.stems := by
    rw [← hstems]
    exact List.mem_flatMap.2 ⟨p, hp, hstem⟩
  exact hapart.notGenerated f hf stem hstem' d.index

/-! ## Each name declared once -/

/-- A name that ends in no digit is no generated name. -/
theorem ne_append_toString {name stem : String}
    (hname : ∀ ch ∈ name.toList.getLast?, ch.isDigit = false) (i : Nat) :
    name ≠ stem ++ toString i := by
  rintro rfl
  obtain ⟨d, ds, hds, hdigits⟩ := Decimal.toDigits_eq_cons i
  have hlast : (stem ++ toString i).toList.getLast? = (d :: ds).getLast? := by
    rw [String.toList_append, toList_toString_nat, hds, List.getLast?_append_of_ne_nil _
      (List.cons_ne_nil d ds)]
  obtain ⟨x, hx⟩ := Option.isSome_iff_exists.mp (by simp : ((d :: ds).getLast?).isSome)
  have hfalse := hname x (by rw [hlast, hx]; rfl)
  rw [hdigits x (List.mem_of_getLast? hx)] at hfalse
  cases hfalse

/-- Each name a rendered module declares is declared once: for a module of sets compiled by the
compilers of moves, and for a compiled job, as long as the stems of the generated names can tell
them apart, the symbols and statements stay on their lines, and the tools and work objects are
named apart from each other and from the generated names. Distinct set names are not enough
(`pushSets_declares_cirx0_twice`). -/
theorem declared_names_unique (c : TargetCompiler) (hc : c.LineFree) :
    (∀ sets : List (List String × CompiledSet), (∀ p ∈ sets, CompiledBy c p.1 p.2) →
      NameStems (sets.flatMap Prod.fst) →
      ((declarations ((sets.map Prod.snd).foldl ProgramModule.pushSet {}).render.toList).map
        (·.2.1)).Nodup) ∧
    ∀ (job : Job) (m : ProgramModule) (sets : List CompiledSet), job.NamesApart →
      job.compile c = .ok (m, sets) → ((declarations m.render.toList).map (·.2.1)).Nodup :=
  ⟨fun _ hsets hstems => pushSets_names_nodup hc hsets hstems,
    fun _ _ _ hapart h => Job.names_nodup hc hapart h⟩

theorem Except.exists_ok_of_isOk {ε α : Type} {x : Except ε α} (h : x.isOk = true) :
    ∃ a, x = .ok a := by
  cases x with
  | error e => cases h
  | ok a => exact ⟨a, rfl⟩

/-- The standard compiler's sets of linear moves `p` and circular moves `q`, and a job with
them, a tool, a work object, a free statement and an insertion, declare each name once. -/
theorem declared_names_unique_sample :
    let pose : Float → CartesianPose := fun x =>
      { position := ⟨x, 0, 400⟩, orientation := ⟨0, 0, 1, 0⟩ }
    let linear : MoveSettings := { setName := "p", speeds := [.symbol "v100"], zones := [.level 10] }
    let circular : MoveSettings :=
      { setName := "q", speeds := [.level 100], zones := [.symbol "fine"], tool := some "gripper" }
    let job : Job :=
      { tools := [{ name := "gripper", frame := pose 100 }]
        wobjs := [{ name := "table", frame := pose 0 }]
        blocks := [.moveL linear [pose 500, pose 600], .moveC circular [pose 650] [pose 700],
          .custom ["WaitTime 1"]]
        insertions := [{ indices := [1], statements := ["SetDO do1, 1"] }] }
    ({} : TargetCompiler).LineFree ∧ job.NamesApart ∧
      (∃ s₁ s₂, CompiledBy {} ["p"] s₁ ∧ CompiledBy {} ["cir" ++ "q", "to" ++ "q"] s₂ ∧
        ((declarations ([s₁, s₂].foldl ProgramModule.pushSet {}).render.toList).map
          (·.2.1)).Nodup) ∧
      ∃ m sets, job.compile {} = .ok (m, sets) ∧
        ((declarations m.render.toList).map (·.2.1)).Nodup := by
  intro pose linear circular job
  have hc := TargetCompiler.lineFree_standard
  have hstems : NameStems ["p", "cir" ++ "q", "to" ++ "q"] := by
    simp only [String.reduceAppend]
    refine ⟨by decide, ?_, by simp⟩
    simp only [List.mem_cons, List.not_mem_nil, or_false, forall_eq_or_imp, forall_eq]
    exact ⟨(by decide +kernel : WordText "p").2, (by decide +kernel : WordText "cirq").2,
      (by decide +kernel : WordText "toq").2⟩
  have hlast : ∀ f ∈ job.tools ++ job.wobjs, ∀ ch ∈ f.name.toList.getLast?,
      ch.isDigit = false := by
    simp [job]
  have hapart : job.NamesApart :=
    ⟨hstems, by decide, by decide, by decide +kernel, by decide,
      fun f hf _ _ i => ne_append_toString (hlast f hf) i⟩
  obtain ⟨s₁, h₁⟩ := Except.exists_ok_of_isOk
    (by decide +kernel : (Block.compile {} (.moveL linear [pose 500, pose 600])).isOk = true)
  obtain ⟨s₂, h₂⟩ := Except.exists_ok_of_isOk
    (by decide +kernel : (Block.compile {} (.moveC circular [pose 650] [pose 700])).isOk = true)
  have hb₁ : CompiledBy {} ["p"] s₁ := .moveL (by decide) (by decide) (by decide) h₁
  have hb₂ : CompiledBy {} ["cir" ++ "q", "to" ++ "q"] s₂ :=
    @CompiledBy.moveC {} [pose 650] [pose 700] circular.speeds circular.zones circular.setName
      circular.frames s₂ (by decide) (by decide) (by decide) h₂
  have hsets : ∀ p ∈ [(["p"], s₁), (["cir" ++ "q", "to" ++ "q"], s₂)], CompiledBy {} p.1 p.2 := by
    intro p hp
    simp only [List.mem_cons, List.not_mem_nil, or_false] at hp
    rcases hp with rfl | rfl
    · exact hb₁
    · exact hb₂
  obtain ⟨⟨m, sets⟩, hjob⟩ := Except.exists_ok_of_isOk (by decide +kernel : (job.compile {}).isOk = true)
  have hmod := (declared_names_unique {} hc).1 _ hsets hstems
  have hjobn := (declared_names_unique {} hc).2 job m sets hapart hjob
  exact ⟨hc, hapart, ⟨s₁, s₂, hb₁, hb₂, hmod⟩, m, sets, hjob, hjobn⟩

/-- Distinct set names can declare one name twice: through-point 0 of the circular moves `x`
and target 0 of the linear moves `cirx` are both `cirx0`. -/
theorem pushSets_declares_cirx0_twice :
    let pose : Float → CartesianPose := fun x =>
      { position := ⟨x, 0, 400⟩, orientation := ⟨0, 0, 1, 0⟩ }
    ∃ s₁ s₂,
      ({} : TargetCompiler).moveC [pose 500] [pose 600] [.level 100] [.level 10] "x" {} = .ok s₁ ∧
      ({} : TargetCompiler).moveL [pose 700] [.level 100] [.level 10] "cirx" {} = .ok s₂ ∧
      (declarations ([s₁, s₂].foldl ProgramModule.pushSet {}).render.toList).map (·.2.1) =
        ["cirx0", "tox0", "cirx0"] := by
  intro pose
  obtain ⟨s₁, h₁⟩ := Except.exists_ok_of_isOk (by decide +kernel :
    (({} : TargetCompiler).moveC [pose 500] [pose 600] [.level 100] [.level 10] "x" {}).isOk = true)
  obtain ⟨s₂, h₂⟩ := Except.exists_ok_of_isOk (by decide +kernel :
    (({} : TargetCompiler).moveL [pose 700] [.level 100] [.level 10] "cirx" {}).isOk = true)
  refine ⟨s₁, s₂, h₁, h₂, ?_⟩
  -- the scanner reads the names the two sets generate, one after the other
  have hd₁ := (CompiledBy.moveC (by decide) (by decide) (by decide) h₁).declares
    TargetCompiler.lineFree_standard (by simp [(by decide +kernel : WordText "cirx").2,
      (by decide +kernel : WordText "tox").2])
  have hd₂ := (CompiledBy.moveL (by decide) (by decide) (by decide) h₂).declares
    TargetCompiler.lineFree_standard (by simp [(by decide +kernel : WordText "cirx").2])
  have hnames := @names_render_pushSets [(["cir" ++ "x", "to" ++ "x"], s₁), (["cirx"], s₂)]
    (by
      intro p hp
      simp only [List.mem_cons, List.not_mem_nil, or_false] at hp
      rcases hp with rfl | rfl
      · exact hd₁
      · exact hd₂)
  refine hnames.trans ?_
  rw [TargetCompiler.moveC_eq_reference] at h₁
  rw [TargetCompiler.moveL, TargetCompiler.compileMoves_eq_reference] at h₂
  rw [TargetCompiler.circlesReference_ok h₁, TargetCompiler.movesReference_ok h₂]
  decide +kernel

end RobotProgram
