import Mathlib
import RobotProgram.Proofs.Mastership
/-!
# RobotProgram.Proofs.Validation

A validation error (a missing local file, an unreadable literal, an empty target list) reports
bad local input, and is meant to be found before anything remote happens. This module shows
where that holds.

* `ValidationFree r`: `r` is a value, or an error of another class. No operation of the
  controller answers with a validation error.
* `Station.ValidationFreeOn fs x`: on stations whose local files are `fs`, `x` fails with no
  validation error. It is closed under binding actions that leave the local files alone
  (`SameFiles`). Every session operation has it but the transfer of a file, which has it where
  the local path exists and names a file.
* The scopes in which the workflows change the controller have it, a program's scope as long as
  both of its paths exist and name a file (`sendProgram_scope_validationFree`).
* `Station.ValidationChangesNothing x s`: a validation error of `x` at `s` leaves the station
  as it was. A check that changes nothing followed by a validation-free action has it.
-/

namespace RobotProgram

/-! ## Results that are no validation errors -/

/-- `r` is a value, or an error of a class other than validation. -/
def ValidationFree {α : Type} (r : Except Error α) : Prop :=
  ∀ e, r = .error e → e.kind ≠ .validation

namespace ValidationFree

variable {α β : Type}

@[simp] theorem ok {a : α} : ValidationFree (Except.ok a : Except Error α) := nofun

@[simp] theorem error_iff {e : Error} :
    ValidationFree (Except.error e : Except Error α) ↔ e.kind ≠ .validation := by
  simp [ValidationFree]

@[simp] theorem pure {a : α} : ValidationFree (Pure.pure a : Except Error α) := nofun

@[simp] theorem throw_iff {e : Error} :
    ValidationFree (throw e : Except Error α) ↔ e.kind ≠ .validation :=
  error_iff

@[simp] theorem bind_iff {x : Except Error α} {f : α → Except Error β} :
    ValidationFree (x >>= f) ↔ ValidationFree x ∧ ∀ a, x = .ok a → ValidationFree (f a) := by
  cases x <;> simp [bind, Except.bind]

@[simp] theorem map_iff {x : Except Error α} {f : α → β} :
    ValidationFree (f <$> x) ↔ ValidationFree x := by
  cases x <;> simp [Functor.map, Except.map]

@[simp] theorem ite_iff {p : Prop} [Decidable p] {x y : Except Error α} :
    ValidationFree (if p then x else y) ↔ (p → ValidationFree x) ∧ (¬p → ValidationFree y) := by
  by_cases hp : p <;> simp [hp]

/-- Local faults are reported as I/O errors. -/
theorem mapError_io {x : Except FileFault α} :
    ValidationFree (x.mapError fun f => Error.io f.text) := by
  cases x <;> simp [Except.mapError, Error.kind]

end ValidationFree

/-! ## The controller's operations

The controller answers with session, protocol and load errors only. -/

namespace SimController

variable (c : SimController)

@[simp] theorem requireLoggedOn_validationFree : ValidationFree c.requireLoggedOn := by
  simp [requireLoggedOn, Error.kind]

@[simp] theorem requireMastership_validationFree (operation : String) :
    ValidationFree (c.requireMastership operation) := by
  simp [requireMastership, Error.kind]

theorem logon_validationFree (handle : ControllerHandle) (user : UserInfo) :
    ValidationFree (c.logon handle user) := by
  simp [SimController.logon, Error.kind]

theorem requestMastership_validationFree : ValidationFree c.requestMastership := by
  simp [requestMastership, Error.kind]

theorem releaseMastership_validationFree : ValidationFree c.releaseMastership.2 := by
  simp [Station.releaseMastership_snd, Error.kind]

theorem operatingMode_validationFree : ValidationFree c.operatingMode := by
  simp [operatingMode]

theorem getData_validationFree (module name : String) : ValidationFree (c.getData module name) := by
  simp [getData]

theorem setData_validationFree (module name value : String) :
    ValidationFree (c.setData module name value) := by
  simp only [setData, ValidationFree.bind_iff, requireMastership_validationFree, true_and]
  intro _ _
  split <;> simp [Error.kind]

theorem setProgramPointer_validationFree (module : String) (row : Nat) :
    ValidationFree (c.setProgramPointer module row) := by
  simp [setProgramPointer, Error.kind]

theorem resetProgramPointer_validationFree : ValidationFree c.resetProgramPointer := by
  simp only [resetProgramPointer, ValidationFree.bind_iff, requireMastership_validationFree,
    true_and]
  intro _ _
  split <;> simp [Error.kind]

theorem start_validationFree : ValidationFree c.start := by
  simp [start, Error.kind]

/-- Storing a file fails with no validation error if reading it did not. -/
theorem putFile_validationFree {text : Except Error String} (htext : ValidationFree text)
    (remote : String) (overwrite : Bool) : ValidationFree (c.putFile text remote overwrite) := by
  simp [putFile, htext, Error.kind]

theorem loadProgram_validationFree (remote : String) (mode : LoadMode) :
    ValidationFree (c.loadProgram remote mode).2 := by
  unfold loadProgram
  split
  · next e he => exact ValidationFree.error_iff.2 (c.requireMastership_validationFree _ e he)
  · split
    · simp [Error.kind]
    · split <;> simp [Error.kind]

theorem loadModule_validationFree (remote : String) (mode : LoadMode) :
    ValidationFree (c.loadModule remote mode).2 := by
  unfold loadModule
  split
  · next e he => exact ValidationFree.error_iff.2 (c.requireMastership_validationFree _ e he)
  · -- every other refusal is a load or protocol error
    repeat' split
    all_goals simp [Error.kind]

end SimController

namespace Station

open RobotProgram.Action

/-! ## Operations that leave the local files alone -/

/-- `t` has the local files of `s`. -/
def SameFiles (s t : Station) : Prop :=
  t.files = s.files

instance : IsPreorder Station SameFiles where
  refl _ := rfl
  trans _ _ _ h₁ h₂ := h₂.trans h₁

namespace SameFiles

theorem changeController (f : SimController → Except Error SimController) :
    Keeps SameFiles (Station.changeController f) := by
  intro s
  simp only [Station.changeController]
  split <;> rfl

theorem stepController (f : SimController → SimController × Except Error Unit) :
    Keeps SameFiles (Station.stepController f) := fun _ => rfl

theorem logon (handle : ControllerHandle) : Keeps SameFiles (Station.logon handle) := by
  intro s
  rw [logon_eq]
  split
  · split <;> rfl
  · rfl

theorem enterMastership : Keeps SameFiles Station.enterMastership := by
  intro s
  rw [enterMastership_eq]
  split
  · split <;> rfl
  · rfl

theorem transfer (operation path : String) : Keeps SameFiles (Station.transfer operation path) := by
  unfold Station.transfer
  refine Keeps.bind (Keeps.requireLocalFile path) fun _ =>
    Keeps.bind (Keeps.require _ _) fun _ => ?_
  split
  · exact Keeps.bind Keeps.get fun _ =>
      Keeps.bind (changeController _) fun _ => Keeps.pure _
  · exact Keeps.throw _

theorem uploadModule (path : String) (mode : LoadMode) :
    Keeps SameFiles (Station.uploadModule path mode) :=
  Keeps.bind (transfer _ _) fun _ => stepController _

theorem uploadProgram (path : String) : Keeps SameFiles (Station.uploadProgram path) :=
  Keeps.bind (transfer _ _) fun _ => stepController _

theorem writeNamedValue (module name : String) (value : DataValue) :
    Keeps SameFiles (Station.writeNamedValue module name value) := by
  unfold Station.writeNamedValue
  exact Keeps.bind (Keeps.require _ _) fun _ => Keeps.bind (Keeps.lookup _ _) fun _ =>
    Keeps.ite (Keeps.bind (Keeps.throw _) fun _ => changeController _) (changeController _)

end SameFiles

/-! ## Actions that fail with no validation error -/

/-- On every station whose local files are `fs`, `x` fails with no validation error. -/
def ValidationFreeOn {α : Type} (fs : LocalFiles) (x : Action α) : Prop :=
  ∀ s : Station, s.files = fs → ValidationFree (x s).2

namespace ValidationFreeOn

variable {α β : Type} {fs : LocalFiles}

/-- The second action starts from the files the first one found. -/
theorem bind {x : Action α} {f : α → Action β} (hx : ValidationFreeOn fs x)
    (hfiles : Keeps SameFiles x) (hf : ∀ a, ValidationFreeOn fs (f a)) :
    ValidationFreeOn fs (x >>= f) := by
  intro s hs
  have hxs := hx s hs
  have hs' : (x s).1.files = fs := (hfiles s).trans hs
  rw [bind_apply]
  rcases hrun : x s with ⟨s', r⟩
  rw [hrun] at hxs hs'
  cases r with
  | error e => exact ValidationFree.error_iff.2 (ValidationFree.error_iff.1 hxs)
  | ok a => exact hf a s' hs'

theorem pure (a : α) : ValidationFreeOn fs (Pure.pure a : Action α) :=
  fun _ _ => ValidationFree.ok

theorem throw {e : Error} (he : e.kind ≠ .validation) :
    ValidationFreeOn fs (MonadExceptOf.throw e : Action α) :=
  fun _ _ => ValidationFree.error_iff.2 he

theorem get : ValidationFreeOn fs Action.get := fun _ _ => ValidationFree.ok

theorem ite {p : Prop} [Decidable p] {x y : Action α} (hx : ValidationFreeOn fs x)
    (hy : ValidationFreeOn fs y) : ValidationFreeOn fs (if p then x else y) := by
  split
  · exact hx
  · exact hy

theorem askController {f : SimController → Except Error α} (hf : ∀ c, ValidationFree (f c)) :
    ValidationFreeOn fs (Station.askController f) :=
  fun s _ => hf s.controller

theorem changeController {f : SimController → Except Error SimController}
    (hf : ∀ c, ValidationFree (f c)) : ValidationFreeOn fs (Station.changeController f) := by
  intro s _
  simp only [Station.changeController]
  split
  · exact ValidationFree.ok
  · next e he => exact ValidationFree.error_iff.2 (hf s.controller e he)

theorem stepController {f : SimController → SimController × Except Error Unit}
    (hf : ∀ c, ValidationFree (f c).2) : ValidationFreeOn fs (Station.stepController f) :=
  fun s _ => hf s.controller

theorem require (operation : String) (required : SessionState) :
    ValidationFreeOn fs (Station.require operation required) := by
  intro s _
  simp only [Station.require]
  split <;> simp [Error.kind]

theorem requireConnected (operation : String) :
    ValidationFreeOn fs (Station.requireConnected operation) := by
  intro s _
  simp only [Station.requireConnected]
  split <;> simp [Error.kind]

/-! ### Session operations -/

theorem operatingMode : ValidationFreeOn fs Station.operatingMode :=
  bind (requireConnected _) (Keeps.requireConnected _) fun _ =>
    askController SimController.operatingMode_validationFree

theorem requireAuto : ValidationFreeOn fs Station.requireAuto :=
  bind operatingMode Keeps.operatingMode fun _ => ite (throw (by simp [Error.kind])) (pure _)

theorem lookup (module name : String) : ValidationFreeOn fs (Station.lookup module name) := by
  unfold Station.lookup
  refine bind (askController fun c => c.getData_validationFree module name) Keeps.askController
    fun d => ?_
  split
  · exact pure _
  · exact throw (by simp [Error.kind])

theorem writeNamedValue (module name : String) (value : DataValue) :
    ValidationFreeOn fs (Station.writeNamedValue module name value) := by
  unfold Station.writeNamedValue
  have write : ValidationFreeOn fs
      (Station.changeController fun c => c.setData module name value.text) :=
    changeController fun c => c.setData_validationFree _ _ _
  exact bind (require _ _) (Keeps.require _ _) fun _ => bind (lookup _ _) (Keeps.lookup _ _)
    fun _ => ite (bind (throw (by simp [Error.kind])) (Keeps.throw _) fun _ => write) write

theorem startExecution : ValidationFreeOn fs Station.startExecution := by
  unfold Station.startExecution
  have reset_start : ValidationFreeOn fs (do
      Station.changeController SimController.resetProgramPointer
      Station.changeController SimController.start) :=
    bind (changeController SimController.resetProgramPointer_validationFree)
      (SameFiles.changeController _) fun _ => changeController SimController.start_validationFree
  exact bind (require _ _) (Keeps.require _ _) fun _ =>
    bind (askController SimController.operatingMode_validationFree) Keeps.askController fun _ =>
      ite (bind (throw (by simp [Error.kind])) (Keeps.throw _) fun _ => reset_start) reset_start

theorem setProgramPointer (module : String) (row : Nat) :
    ValidationFreeOn fs (Station.setProgramPointer module row) :=
  bind (require _ _) (Keeps.require _ _) fun _ =>
    changeController fun c => c.setProgramPointer_validationFree module row

/-- The one validation error a transfer can give after the session was checked is a path that
names no file: a path that exists and names one is copied or fails otherwise. -/
theorem transfer {operation path : String} (hpath : fs.metadata path = .ok ())
    (hname : (fileName? path).isSome = true) :
    ValidationFreeOn fs (Station.transfer operation path) := by
  unfold Station.transfer
  have present : ValidationFreeOn fs (Station.requireLocalFile path) := by
    intro s hs
    unfold Station.requireLocalFile
    rw [hs, hpath]
    exact ValidationFree.ok
  obtain ⟨remote, hremote⟩ := Option.isSome_iff_exists.1 hname
  refine bind present (Keeps.requireLocalFile _) fun _ =>
    bind (require _ _) (Keeps.require _ _) fun _ => ?_
  rw [hremote]
  exact bind get Keeps.get fun s =>
    bind (changeController fun c => c.putFile_validationFree ValidationFree.mapError_io _ _)
      (SameFiles.changeController _) fun _ => pure _

theorem uploadModule {path : String} (mode : LoadMode) (hpath : fs.metadata path = .ok ())
    (hname : (fileName? path).isSome = true) :
    ValidationFreeOn fs (Station.uploadModule path mode) :=
  bind (transfer hpath hname) (SameFiles.transfer _ _) fun _ =>
    stepController fun c => c.loadModule_validationFree _ _

theorem uploadProgram {path : String} (hpath : fs.metadata path = .ok ())
    (hname : (fileName? path).isSome = true) :
    ValidationFreeOn fs (Station.uploadProgram path) :=
  bind (transfer hpath hname) (SameFiles.transfer _ _) fun _ =>
    stepController fun c => c.loadProgram_validationFree _ _

/-! ### Scopes -/

theorem logon (handle : ControllerHandle) : ValidationFreeOn fs (Station.logon handle) := by
  intro s _
  rw [logon_eq]
  split
  · split
    · exact ValidationFree.ok
    · next e he =>
      exact ValidationFree.error_iff.2 (s.controller.logon_validationFree _ _ e he)
  · simp [Error.kind]

theorem enterMastership : ValidationFreeOn fs Station.enterMastership := by
  intro s _
  rw [enterMastership_eq]
  split
  · split
    · exact ValidationFree.ok
    · next e he =>
      exact ValidationFree.error_iff.2 (s.controller.requestMastership_validationFree e he)
  · simp [Error.kind]

/-- A mastership scope answers with its entry's error, its body's, or the release's. -/
theorem withMastership {body : Action α} (hbody : ValidationFreeOn fs body) :
    ValidationFreeOn fs (Station.withMastership body) := by
  intro s hs
  rw [withMastership_eq]
  have hentry := enterMastership s hs
  have hfiles := SameFiles.enterMastership s
  rcases hr : Station.enterMastership s with ⟨s1, e | ⟨⟨⟩⟩⟩ <;> rw [hr] at hentry hfiles
  · exact ValidationFree.error_iff.2 (ValidationFree.error_iff.1 hentry)
  · have hinside := hbody s1 (hfiles.trans hs)
    show ValidationFree (exitMastership (body s1).2 (body s1).1).2
    rw [exitMastership_eq]
    have hrelease := (body s1).1.controller.releaseMastership_validationFree
    rcases hb : (body s1).2 with e | v <;> rw [hb] at hinside
    · exact hinside
    · rcases hrel : (body s1).1.controller.releaseMastership.2 with e | ⟨⟩ <;>
        rw [hrel] at hrelease
      · exact ValidationFree.error_iff.2 (ValidationFree.error_iff.1 hrelease)
      · exact ValidationFree.ok

/-- A logon scope answers with the logon's error or its body's. -/
theorem withLogon (handle : ControllerHandle) {body : Action α}
    (hbody : ValidationFreeOn fs body) : ValidationFreeOn fs (Station.withLogon handle body) := by
  intro s hs
  rw [withLogon_eq]
  have hlogon := logon handle s hs
  have hfiles := SameFiles.logon handle s
  rcases hr : Station.logon handle s with ⟨s1, e | ⟨⟨⟩⟩⟩ <;> rw [hr] at hlogon hfiles
  · exact ValidationFree.error_iff.2 (ValidationFree.error_iff.1 hlogon)
  · exact hbody s1 (hfiles.trans hs)

end ValidationFreeOn

/-! ## The scopes of the workflows -/

section Scopes

variable {fs : LocalFiles} (handle : ControllerHandle)

theorem setPointer_validationFree (module : String) (row : Nat) :
    ValidationFreeOn fs (setPointer handle module row) :=
  .withLogon handle (.withMastership (.setProgramPointer module row))

/-- Once its text reads as a pose, sending a target fails with no validation error. -/
theorem sendTarget_scope_validationFree (module name : String) (pose : CartesianPose) :
    ValidationFreeOn fs (withLogon handle <| withMastership do
      requireAuto
      writeNamedValue module name (.robtarget pose)
      startExecution) :=
  .withLogon handle <| .withMastership <|
    .bind .requireAuto Keeps.requireAuto fun _ =>
      .bind (.writeNamedValue _ _ _) (SameFiles.writeNamedValue _ _ _) fun _ => .startExecution

/-- Once both of its paths are found, sending a program fails with no validation error if both
name a file. -/
theorem sendProgram_scope_validationFree (files : ProgramFiles)
    (hprogram : fs.metadata files.program = .ok ()) (hmodule : fs.metadata files.module = .ok ())
    (hnamed : (fileName? files.program).isSome = true ∧ (fileName? files.module).isSome = true) :
    ValidationFreeOn fs (withLogon handle <| withMastership do
      requireAuto
      uploadProgram files.program
      uploadModule files.module .add
      startExecution) :=
  .withLogon handle <| .withMastership <|
    .bind .requireAuto Keeps.requireAuto fun _ =>
      .bind (.uploadProgram hprogram hnamed.1) (SameFiles.uploadProgram _) fun _ =>
        .bind (.uploadModule _ hmodule hnamed.2) (SameFiles.uploadModule _ _) fun _ =>
          .startExecution

end Scopes

/-! ## Validation errors that change nothing -/

/-- A validation error of `x` at `s` leaves the station as it was. -/
def ValidationChangesNothing {α : Type} (x : Action α) (s : Station) : Prop :=
  ∀ e, (x s).2 = .error e → e.kind = .validation → (x s).1 = s

namespace ValidationChangesNothing

variable {α β : Type} {s : Station}

theorem of_validationFree {x : Action α} (hx : ValidationFree (x s).2) :
    ValidationChangesNothing x s :=
  fun e he hv => absurd hv (hx e he)

theorem of_unchanged {x : Action α} (hx : (x s).1 = s) : ValidationChangesNothing x s :=
  fun _ _ _ => hx

/-- A check that changes nothing, then an action that has the property wherever the check
passed. -/
theorem check {x : Action α} {f : α → Action β} (hx : (x s).1 = s)
    (hf : ∀ a, (x s).2 = .ok a → ValidationChangesNothing (f a) s) :
    ValidationChangesNothing (x >>= f) s := by
  intro e he hv
  rw [bind_apply] at he ⊢
  rcases hrun : x s with ⟨s', r⟩
  rw [hrun] at hx he
  obtain rfl : s' = s := hx
  cases r with
  | error e' => rfl
  | ok a => exact hf a (by rw [hrun]) e he hv

/-- An action, then an answer that changes nothing and cannot fail. -/
theorem answer {x : Action α} {f : α → Action β} (hx : ValidationChangesNothing x s)
    (hf : ∀ a t, ∃ b, f a t = (t, .ok b)) : ValidationChangesNothing (x >>= f) s := by
  intro e he hv
  rw [bind_apply] at he ⊢
  rcases hrun : x s with ⟨s', r⟩
  rw [hrun] at he
  cases r with
  | error e' =>
    obtain rfl : e' = e := Except.error.inj he
    have hunchanged := hx e' (by rw [hrun]) hv
    rwa [hrun] at hunchanged
  | ok a =>
    obtain ⟨b, hb⟩ := hf a s'
    simp only [hb, reduceCtorEq] at he

end ValidationChangesNothing

end Station

end RobotProgram
