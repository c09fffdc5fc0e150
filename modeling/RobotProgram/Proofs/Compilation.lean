import RobotProgram.Program.Compile
/-!
# RobotProgram.Proofs.Compilation

What a compiled set of moves is, entry by entry. Compiling walks the checks in a fixed order
and the first one that fails is the answer:

1. the target list is empty (for circular moves: the destinations);
2. for circular moves, the through-points and destinations differ in number;
3. a target is invalid: the first one in order (circular moves: all through-points, then all
   destinations);
4. the speed list, then the zone list, is empty;
5. at the lowest index, the speed and then the zone is a level that is not finite.

Otherwise entry `i` is target `i`, declared as `<set><i>` (circular moves: `cir<set><i>` and
`to<set><i>`), with speed `i` and zone `i` of the parameter lists read cyclically: past the end
of a list, its first parameter. `movesReference` and `circlesReference` say this without the
stretching loop, the zips and the monadic walk of the compiler.

Main statement: `compile_eq_reference`, compiling gives exactly the reference result.
-/

namespace RobotProgram

/-! ## Checks run in order -/

/-- The first failure among checks run in order. -/
def firstFault : List (Except Error Unit) → Option Error
  | [] => none
  | .ok () :: rest => firstFault rest
  | .error e :: _ => some e

/-- Running checks one after another stops at the first failure. -/
theorem forM_eq_firstFault {α : Type} (xs : List α) (check : α → Except Error Unit) :
    xs.forM check = match firstFault (xs.map check) with
      | some e => .error e
      | none => .ok () := by
  induction xs with
  | nil => rfl
  | cons x xs ih =>
    simp only [List.forM_eq_forM, List.forM_cons, List.map_cons]
    cases hx : check x with
    | error e => rfl
    | ok u =>
      cases u
      exact ih

/-- The error of a fault, if there is one, else the value. -/
def orFault {β γ : Type} (fault : Option γ) (toError : γ → Error) (value : β) : Except Error β :=
  match fault with
  | some v => .error (toError v)
  | none => .ok value

/-- A walk whose every step fails exactly where `fault` finds something gives the first such
fault, or all the values. -/
theorem mapM_eq_orFault {α β γ : Type} (xs : List α) (step : α → Except Error β)
    (fault : α → Option γ) (toError : γ → Error) (value : α → β)
    (hstep : ∀ x, step x = orFault (fault x) toError (value x)) :
    xs.mapM step = orFault (xs.findSome? fault) toError (xs.map value) := by
  induction xs with
  | nil => rfl
  | cons x xs ih =>
    rw [List.mapM_cons, hstep x, List.findSome?_cons]
    cases fault x with
    | some v => rfl
    | none =>
      simp only [List.map_cons]
      rw [ih]
      cases xs.findSome? fault <;> rfl

/-! ## Stretched parameter lists -/

/-- Entry `i` of a list read cyclically to its first entry: entry `i` where the list has one,
its first entry past its end. -/
def cycledAt {α : Type} [Inhabited α] (xs : List α) (i : Nat) : α :=
  match xs with
  | [] => default
  | first :: _ => xs.getD i first

example : (List.range 5).map (cycledAt [5, 7]) = [5, 7, 5, 5, 5] := by decide

/-- Entry `i` of a stretched list is the entry of the list read cyclically. -/
theorem getElem_stretch {α : Type} [Inhabited α] (first : α) (rest : List α) (len i : Nat)
    (h : i < (first :: rest ++ List.replicate (len - (rest.length + 1)) first).length) :
    (first :: rest ++ List.replicate (len - (rest.length + 1)) first)[i]
      = cycledAt (first :: rest) i := by
  simp only [cycledAt, List.getD_eq_getElem?_getD]
  by_cases hi : i < rest.length + 1
  · rw [List.getElem_append_left (by simpa using hi)]
    rw [List.getElem?_eq_getElem (by simpa using hi)]
    rfl
  · rw [List.getElem_append_right (by simp only [List.length_cons]; omega)]
    rw [List.getElem_replicate, List.getElem?_eq_none (by simp only [List.length_cons]; omega)]
    rfl

/-- A stretched list has at least the asked-for length. -/
theorem length_stretch {α : Type} (first : α) (rest : List α) (len : Nat) :
    len ≤ (first :: rest ++ List.replicate (len - (rest.length + 1)) first).length := by
  simp only [List.length_append, List.length_cons, List.length_replicate]
  omega

/-- Items zipped with two stretched parameter lists and numbered: item `i` with parameter `i` of
each list read cyclically. -/
theorem zipIdx_zip_stretch {α β : Type} [Inhabited β] (xs : List α) (s z : β) (ss zs : List β)
    (len : Nat) (hlen : xs.length ≤ len) :
    (xs.zip ((s :: ss ++ List.replicate (len - (ss.length + 1)) s).zip
        (z :: zs ++ List.replicate (len - (zs.length + 1)) z))).zipIdx
      = xs.zipIdx.map fun (x, i) => ((x, cycledAt (s :: ss) i, cycledAt (z :: zs) i), i) := by
  have hs := length_stretch s ss len
  have hz := length_stretch z zs len
  apply List.ext_getElem
  · simp only [List.length_zipIdx, List.length_zip, List.length_map]
    omega
  · intro i h₁ h₂
    simp only [List.getElem_zipIdx, List.getElem_zip, List.getElem_map, getElem_stretch,
      Nat.zero_add]

/-- The entries of the items numbered from zero are the indices below their number. -/
theorem findSome?_zipIdx_snd {α γ : Type} (xs : List α) (f : Nat → Option γ) :
    xs.zipIdx.findSome? (fun p => f p.2) = (List.range xs.length).findSome? f := by
  have h : (List.range xs.length) = xs.zipIdx.map Prod.snd := by
    rw [List.zipIdx_map_snd, List.range_eq_range']
  rw [h, List.findSome?_map]
  rfl

/-! ## Resolving parameters -/

/-- The level of a parameter that no catalog resolves: a level that is not finite. -/
def MotionParameter.nonFiniteLevel? : MotionParameter → Option Float
  | .level v => if v.isFinite then none else some v
  | .symbol _ => none

/-- The symbol a parameter resolves to in a catalog; empty for a level no catalog resolves. -/
def MotionCatalog.symbolOf (cat : MotionCatalog) (p : MotionParameter) : String :=
  match p.resolve cat with
  | .ok s => s
  | .error _ => ""

/-- A catalog has at least one entry. -/
theorem MotionCatalog.entries_ne_nil (cat : MotionCatalog) : cat.entries ≠ [] := by
  intro h
  have hchecked := cat.checked
  rw [h] at hchecked
  simp [checkCatalog, Except.toBool] at hchecked

/-- Looking for the nearest entry through a list of entries finds one. -/
theorem foldl_nearerEntry_isSome (value : Float) (entries : List CatalogEntry)
    (best : Option (CatalogEntry × Float)) (h : entries ≠ [] ∨ best.isSome) :
    (entries.foldl (nearerEntry value) best).isSome := by
  induction entries generalizing best with
  | nil =>
    simp only [ne_eq, not_true_eq_false, false_or] at h
    exact h
  | cons e es ih =>
    apply ih
    right
    unfold nearerEntry
    cases best with
    | none => rfl
    | some b => simp only; split <;> rfl

/-- In a catalog, a parameter fails to resolve exactly when it is a level that is not finite;
otherwise it resolves to its symbol. -/
theorem MotionParameter.resolve_eq (cat : MotionCatalog) (p : MotionParameter) :
    p.resolve cat = match p.nonFiniteLevel? with
      | some v => .error (.invalidLevel v)
      | none => .ok (cat.symbolOf p) := by
  cases p with
  | symbol name => rfl
  | level v =>
    simp only [MotionParameter.nonFiniteLevel?, MotionCatalog.symbolOf, MotionParameter.resolve,
      MotionCatalog.quantize, quantize]
    cases hv : v.isFinite with
    | false => rfl
    | true =>
      have hsome := foldl_nearerEntry_isSome v cat.entries none (.inl cat.entries_ne_nil)
      simp only [Bool.not_true, Bool.false_eq_true, ↓reduceIte]
      obtain ⟨⟨e, d⟩, he⟩ := Option.isSome_iff_exists.mp hsome
      rw [he]

/-! ## The entries of a set -/

/-- Why the parameters of a set of `n` entries cannot be resolved, checked in order: the speed
list is empty, the zone list is empty, or at the lowest index the speed, then the zone, is a
level that is not finite. -/
def parameterFault (speeds zones : List MotionParameter) (n : Nat) : Option Error :=
  match speeds, zones with
  | [], _ => some (.parameterListEmpty "speed")
  | _ :: _, [] => some (.parameterListEmpty "zone")
  | _ :: _, _ :: _ =>
    ((List.range n).findSome? fun i =>
      (cycledAt speeds i).nonFiniteLevel? <|> (cycledAt zones i).nonFiniteLevel?).map .invalidLevel

namespace TargetCompiler

/-- Declaration `i` of a set of moves: target `i`, declared as `<set><i>`. -/
def declarationAt (setName : String) (target : Target) (i : Nat) : Declaration :=
  let name := setName ++ toString i
  { index := i, names := [name],
    text := "\n\tCONST " ++ target.dataType ++ " " ++ name ++ ":=" ++ target.text ++ ";" }

/-- Instruction `i` of a set of moves: a move to `<set><i>` with the speed and zone symbols of
entry `i`. -/
def instructionAt (c : TargetCompiler) (opcode : Opcode) (setName : String) (frames : Frames)
    (speeds zones : List MotionParameter) (i : Nat) : Instruction :=
  let name := setName ++ toString i
  let speed := c.speeds.symbolOf (cycledAt speeds i)
  let zone := c.zones.symbolOf (cycledAt zones i)
  { index := i, opcode, speed := some speed, zone := some zone,
    text := "\n\t\t" ++ opcode.name ++ " " ++ name ++ "," ++ speed ++ "," ++ zone ++ "," ++
      frames.tool ++ "\\WObj:=" ++ frames.wobj ++ ";" }

/-- Declaration `i` of a set of circular moves: through-point `i` as `cir<set><i>` and
destination `i` as `to<set><i>`. -/
def circleDeclarationAt (setName : String) (via dest : CartesianPose) (i : Nat) : Declaration :=
  let cir := "cir" ++ setName ++ toString i
  let toName := "to" ++ setName ++ toString i
  { index := i, names := [cir, toName],
    text := "\n\tCONST robtarget " ++ cir ++ ":=" ++ via.text ++ ";\n\tCONST robtarget " ++
      toName ++ ":=" ++ dest.text ++ ";" }

/-- Instruction `i` of a set of circular moves: through `cir<set><i>` to `to<set><i>` with the
speed and zone symbols of entry `i`. -/
def circleInstructionAt (c : TargetCompiler) (setName : String) (frames : Frames)
    (speeds zones : List MotionParameter) (i : Nat) : Instruction :=
  let cir := "cir" ++ setName ++ toString i
  let toName := "to" ++ setName ++ toString i
  let speed := c.speeds.symbolOf (cycledAt speeds i)
  let zone := c.zones.symbolOf (cycledAt zones i)
  { index := i, opcode := .moveC, speed := some speed, zone := some zone,
    text := "\n\t\tMoveC " ++ cir ++ "," ++ toName ++ "," ++ speed ++ "," ++ zone ++ "," ++
      frames.tool ++ "\\WObj:=" ++ frames.wobj ++ ";" }

/-- What compiling moves to the targets gives: the first failing check, or declaration and
instruction `i` for each target `i`. -/
def movesReference (c : TargetCompiler) (opcode : Opcode) (targets : List Target)
    (speeds zones : List MotionParameter) (setName : String) (frames : Frames) :
    Except Error CompiledSet :=
  if targets = [] then .error .emptyTargetList
  else match firstFault (targets.map Target.validate) with
    | some e => .error e
    | none =>
      match parameterFault speeds zones targets.length with
      | some e => .error e
      | none => .ok
        { declarations := targets.zipIdx.map fun (t, i) => declarationAt setName t i
          instructions := targets.zipIdx.map fun (_, i) =>
            c.instructionAt opcode setName frames speeds zones i }

/-- What compiling circular moves gives: the first failing check, or declaration and
instruction `i` for each pair of through-point and destination `i`. -/
def circlesReference (c : TargetCompiler) (via dests : List CartesianPose)
    (speeds zones : List MotionParameter) (setName : String) (frames : Frames) :
    Except Error CompiledSet :=
  if dests = [] then .error .emptyTargetList
  else if via.length ≠ dests.length then .error (.mismatchedTargets via.length dests.length)
  else match firstFault ((via ++ dests).map CartesianPose.validate) with
    | some e => .error e
    | none =>
      match parameterFault speeds zones dests.length with
      | some e => .error e
      | none => .ok
        { declarations := (via.zip dests).zipIdx.map fun ((v, d), i) =>
            circleDeclarationAt setName v d i
          instructions := (via.zip dests).zipIdx.map fun (_, i) =>
            c.circleInstructionAt setName frames speeds zones i }

/-- Entry `i` of a set of moves fails where its speed, then its zone, is a level that is not
finite, and is otherwise declaration and instruction `i`. -/
theorem moveEntry_cycledAt (c : TargetCompiler) (opcode : Opcode) (setName : String)
    (frames : Frames) (speeds zones : List MotionParameter) (t : Target) (i : Nat) :
    c.moveEntry opcode setName frames ((t, cycledAt speeds i, cycledAt zones i), i)
      = orFault ((cycledAt speeds i).nonFiniteLevel? <|> (cycledAt zones i).nonFiniteLevel?)
          .invalidLevel (declarationAt setName t i,
            c.instructionAt opcode setName frames speeds zones i) := by
  unfold moveEntry
  dsimp only
  rw [MotionParameter.resolve_eq, MotionParameter.resolve_eq]
  cases (cycledAt speeds i).nonFiniteLevel? <;> cases (cycledAt zones i).nonFiniteLevel? <;> rfl

/-- Entry `i` of a set of circular moves fails where its speed, then its zone, is a level that
is not finite, and is otherwise declaration and instruction `i`. -/
theorem circleEntry_cycledAt (c : TargetCompiler) (setName : String) (frames : Frames)
    (speeds zones : List MotionParameter) (via dest : CartesianPose) (i : Nat) :
    c.circleEntry setName frames (((via, dest), cycledAt speeds i, cycledAt zones i), i)
      = orFault ((cycledAt speeds i).nonFiniteLevel? <|> (cycledAt zones i).nonFiniteLevel?)
          .invalidLevel (circleDeclarationAt setName via dest i,
            c.circleInstructionAt setName frames speeds zones i) := by
  unfold circleEntry
  dsimp only
  rw [MotionParameter.resolve_eq, MotionParameter.resolve_eq]
  cases (cycledAt speeds i).nonFiniteLevel? <;> cases (cycledAt zones i).nonFiniteLevel? <;> rfl

/-- Walking the numbered items of a set, each zipped with its cyclic parameters, gives the
parameter fault of the set or one entry per item. -/
theorem mapM_entries {α : Type} (xs : List α) (s z : MotionParameter)
    (ss zs : List MotionParameter)
    (entry : (α × MotionParameter × MotionParameter) × Nat → Except Error (Declaration × Instruction))
    (decl : α → Nat → Declaration) (inst : Nat → Instruction)
    (hentry : ∀ x i, entry ((x, cycledAt (s :: ss) i, cycledAt (z :: zs) i), i)
      = orFault ((cycledAt (s :: ss) i).nonFiniteLevel? <|> (cycledAt (z :: zs) i).nonFiniteLevel?)
          .invalidLevel (decl x i, inst i)) :
    (do
      let entries ← (xs.zipIdx.map fun (x, i) =>
        ((x, cycledAt (s :: ss) i, cycledAt (z :: zs) i), i)).mapM entry
      pure (ofEntries entries) : Except Error CompiledSet)
      = match parameterFault (s :: ss) (z :: zs) xs.length with
        | some e => .error e
        | none => .ok
          { declarations := xs.zipIdx.map fun (x, i) => decl x i
            instructions := xs.zipIdx.map fun (_, i) => inst i } := by
  rw [List.mapM_map]
  rw [mapM_eq_orFault _ _ (fun p => (cycledAt (s :: ss) p.2).nonFiniteLevel? <|>
      (cycledAt (z :: zs) p.2).nonFiniteLevel?) Error.invalidLevel
      (fun p => (decl p.1 p.2, inst p.2)) (fun p => by obtain ⟨x, i⟩ := p; exact hentry x i)]
  rw [findSome?_zipIdx_snd xs (fun i => (cycledAt (s :: ss) i).nonFiniteLevel? <|>
      (cycledAt (z :: zs) i).nonFiniteLevel?)]
  simp only [parameterFault]
  cases (List.range xs.length).findSome? (fun i => (cycledAt (s :: ss) i).nonFiniteLevel? <|>
      (cycledAt (z :: zs) i).nonFiniteLevel?) with
  | some v => rfl
  | none =>
    simp only [Option.map_none, orFault, ofEntries, bind, Except.bind, pure, Except.pure,
      List.map_map]
    rfl

/-- Compiling linear, joint or absolute joint moves gives exactly the reference result. -/
theorem compileMoves_eq_reference (c : TargetCompiler) (opcode : Opcode) (targets : List Target)
    (speeds zones : List MotionParameter) (setName : String) (frames : Frames) :
    c.compileMoves opcode targets speeds zones setName frames
      = c.movesReference opcode targets speeds zones setName frames := by
  unfold compileMoves movesReference
  cases targets with
  | nil => rfl
  | cons t ts =>
    simp only [List.isEmpty_cons, Bool.false_eq_true, ↓reduceIte, reduceCtorEq]
    rw [forM_eq_firstFault]
    cases firstFault ((t :: ts).map Target.validate) with
    | some e => rfl
    | none =>
      cases speeds with
      | nil => rfl
      | cons s ss =>
        cases zones with
        | nil => simp only [broadcast_eq_ok]; rfl
        | cons z zs =>
          simp only [broadcast_eq_ok, bind, Except.bind, pure, Except.pure]
          rw [zipIdx_zip_stretch _ s z ss zs _ (Nat.le_refl _)]
          exact mapM_entries (t :: ts) s z ss zs _ _ _
            (fun x i => moveEntry_cycledAt c opcode setName frames _ _ x i)

/-- Compiling circular moves gives exactly the reference result. -/
theorem moveC_eq_reference (c : TargetCompiler) (via dests : List CartesianPose)
    (speeds zones : List MotionParameter) (setName : String) (frames : Frames) :
    c.moveC via dests speeds zones setName frames
      = c.circlesReference via dests speeds zones setName frames := by
  unfold moveC circlesReference
  cases dests with
  | nil => rfl
  | cons d ds =>
    simp only [List.isEmpty_cons, Bool.false_eq_true, ↓reduceIte, reduceCtorEq]
    by_cases hlen : via.length = (d :: ds).length
    · simp only [hlen, ne_eq, not_true_eq_false, ↓reduceIte]
      rw [forM_eq_firstFault]
      cases firstFault ((via ++ d :: ds).map CartesianPose.validate) with
      | some e => rfl
      | none =>
        have hzip : (via.zip (d :: ds)).length = (d :: ds).length := by
          rw [List.length_zip, hlen, Nat.min_self]
        cases speeds with
        | nil => rfl
        | cons s ss =>
          cases zones with
          | nil => simp only [broadcast_eq_ok]; rfl
          | cons z zs =>
            simp only [broadcast_eq_ok, bind, Except.bind, pure, Except.pure]
            rw [zipIdx_zip_stretch _ s z ss zs _ (Nat.le_of_eq hzip), ← hzip]
            exact mapM_entries (via.zip (d :: ds)) s z ss zs _
              (fun x i => circleDeclarationAt setName x.1 x.2 i) _
              (fun x i => circleEntry_cycledAt c setName frames _ _ x.1 x.2 i)
    · simp only [hlen, ne_eq, not_false_eq_true, ↓reduceIte]
      rfl

/-- Every compiler of moves gives exactly the reference result: linear, joint and absolute
joint moves to each target, and circular moves through each through-point. -/
theorem compile_eq_reference (c : TargetCompiler) (speeds zones : List MotionParameter)
    (setName : String) (frames : Frames) :
    (∀ targets, c.moveL targets speeds zones setName frames
      = c.movesReference .moveL (targets.map .cartesian) speeds zones setName frames) ∧
    (∀ targets, c.moveJ targets speeds zones setName frames
      = c.movesReference .moveJ (targets.map .cartesian) speeds zones setName frames) ∧
    (∀ targets, c.moveAbsJ targets speeds zones setName frames
      = c.movesReference .moveAbsJ (targets.map .joint) speeds zones setName frames) ∧
    (∀ via dests, c.moveC via dests speeds zones setName frames
      = c.circlesReference via dests speeds zones setName frames) :=
  ⟨fun _ => compileMoves_eq_reference .., fun _ => compileMoves_eq_reference ..,
    fun _ => compileMoves_eq_reference .., fun _ _ => moveC_eq_reference ..⟩

end TargetCompiler

end RobotProgram
