import Mathlib.Order.Defs.Unbundled
import RobotProgram.Controller.Scenario
/-!
# RobotProgram.Proofs.Session

What the operations of a session do to its station, said once so that theories of the session
cite these lemmas instead of unfolding the operations.

* Computations of `Except` succeed step by step (`Except.bind_eq_ok` and its companions).
* The controller's operations: which of them need mastership, and which touch the link
  (`SimController.SameLink`: the client logged on, mastership and the count of grants).
* `Action.Keeps R x`: the station after `x` is related by `R` to the one before, whatever `x`
  answers. For a preorder `R` this is closed under the monad's operations, so it is shown once
  for each building block and for every operation by composition.
* `SameLink`: the session and the controller's link are as they were. Every operation keeps it
  but the four that open and close scopes.
* Those four (`logon`, `logoff`, `enterMastership`, `exitMastership`) and the two scopes built
  from them (`withLogon`, `withMastership`) in closed form.
-/

namespace RobotProgram

/-! ## Computations that may fail -/

section Except

variable {ε α β : Type}

@[simp] theorem Except.bind_eq_ok {x : Except ε α} {f : α → Except ε β} {b : β} :
    (x >>= f) = .ok b ↔ ∃ a, x = .ok a ∧ f a = .ok b := by
  cases x <;> simp [bind, Except.bind]

@[simp] theorem Except.throw_ne_ok {e : ε} {a : α} : (throw e : Except ε α) ≠ .ok a := by
  simp [throw, throwThe, MonadExceptOf.throw]

@[simp] theorem Except.throw_bind {e : ε} {f : α → Except ε β} :
    (throw e >>= f : Except ε β) = throw e := rfl

@[simp] theorem Except.map_throw {e : ε} {f : α → β} :
    (f <$> (throw e : Except ε α)) = throw e := rfl

@[simp] theorem Except.pure_eq_ok {a b : α} : (pure a : Except ε α) = .ok b ↔ a = b := by
  simp [pure, Except.pure]

@[simp] theorem Except.ite_throw_eq_ok {p : Prop} [Decidable p] {x : Except ε α} {e : ε}
    {b : α} : (if p then x else throw e) = .ok b ↔ p ∧ x = .ok b := by
  by_cases hp : p <;> simp [hp]

@[simp] theorem Except.throw_ite_eq_ok {p : Prop} [Decidable p] {x : Except ε α} {e : ε}
    {b : α} : (if p then throw e else x) = .ok b ↔ ¬p ∧ x = .ok b := by
  by_cases hp : p <;> simp [hp]

end Except

/-! ## The controller's operations

Only logging on and off, taking and giving back mastership change the link between a client
and the controller. Every operation that changes programs, data, the pointer or execution
succeeds only with mastership; storing a file needs a logged-on client only. -/

namespace SimController

/-- `c'` has the client, the mastership and the count of grants of `c`. -/
def SameLink (c c' : SimController) : Prop :=
  c'.loggedOn = c.loggedOn ∧ c'.mastership = c.mastership ∧
    c'.mastershipGrants = c.mastershipGrants

variable {c c' : SimController}

theorem sameLink_refl (c : SimController) : c.SameLink c := ⟨rfl, rfl, rfl⟩

theorem requireLoggedOn_eq_ok {u : Unit} : c.requireLoggedOn = .ok u ↔ c.loggedOn = true := by
  unfold requireLoggedOn
  split <;> simp_all

theorem requireMastership_eq_ok {operation : String} {u : Unit} :
    c.requireMastership operation = .ok u ↔ c.loggedOn = true ∧ c.mastership = true := by
  simp [requireMastership, requireLoggedOn_eq_ok]

theorem logon_eq_ok {handle : ControllerHandle} {user : UserInfo}
    (h : c.logon handle user = .ok c') : c' = { c with loggedOn := true } := by
  unfold logon at h
  split at h
  · cases h
  · split at h
    · cases h
    · cases h; rfl

theorem requestMastership_eq_ok (h : c.requestMastership = .ok c') :
    c.mastership = false ∧ c'.mastership = true := by
  simp [requestMastership, requireLoggedOn_eq_ok] at h
  obtain ⟨-, hm, rfl⟩ := h
  exact ⟨hm, rfl⟩

theorem putFile_sameLink {text : Except Error String} {remote : String} {overwrite : Bool}
    (h : c.putFile text remote overwrite = .ok c') : c.SameLink c' := by
  simp [putFile, requireLoggedOn_eq_ok] at h
  obtain ⟨_, -, -, -, rfl⟩ := h
  exact sameLink_refl c

theorem setData_eq_ok {module name value : String} (h : c.setData module name value = .ok c') :
    c.mastership = true ∧ c.SameLink c' := by
  simp only [setData, Except.bind_eq_ok, requireMastership_eq_ok] at h
  obtain ⟨_, ⟨-, hm⟩, h⟩ := h
  split at h
  · exact absurd h Except.throw_ne_ok
  · cases h; exact ⟨hm, sameLink_refl c⟩

theorem setProgramPointer_eq_ok {module : String} {row : Nat}
    (h : c.setProgramPointer module row = .ok c') : c.mastership = true ∧ c.SameLink c' := by
  simp [setProgramPointer, requireMastership_eq_ok] at h
  obtain ⟨⟨-, hm⟩, -, rfl⟩ := h
  exact ⟨hm, sameLink_refl c⟩

theorem resetProgramPointer_eq_ok (h : c.resetProgramPointer = .ok c') :
    c.mastership = true ∧ c.SameLink c' := by
  simp only [resetProgramPointer, Except.bind_eq_ok, requireMastership_eq_ok] at h
  obtain ⟨_, ⟨-, hm⟩, h⟩ := h
  split at h
  · exact absurd h Except.throw_ne_ok
  · cases h; exact ⟨hm, sameLink_refl c⟩

theorem start_eq_ok (h : c.start = .ok c') : c.mastership = true ∧ c.SameLink c' := by
  simp [start, requireMastership_eq_ok] at h
  obtain ⟨⟨-, hm⟩, -, rfl⟩ := h
  exact ⟨hm, sameLink_refl c⟩

/-- Loading keeps the link, whether it succeeds or not. -/
theorem loadModule_sameLink {remote : String} {mode : LoadMode} :
    c.SameLink (c.loadModule remote mode).1 := by
  unfold loadModule
  repeat' split
  all_goals exact sameLink_refl c

theorem loadModule_eq_ok {remote : String} {mode : LoadMode}
    (h : (c.loadModule remote mode).2 = .ok ()) : c.mastership = true := by
  unfold loadModule at h
  split at h
  · cases h
  · next hr => exact (requireMastership_eq_ok.1 hr).2

theorem loadProgram_sameLink {remote : String} {mode : LoadMode} :
    c.SameLink (c.loadProgram remote mode).1 := by
  unfold loadProgram
  repeat' split
  all_goals exact sameLink_refl c

theorem loadProgram_eq_ok {remote : String} {mode : LoadMode}
    (h : (c.loadProgram remote mode).2 = .ok ()) : c.mastership = true := by
  unfold loadProgram at h
  split at h
  · cases h
  · next hr => exact (requireMastership_eq_ok.1 hr).2

theorem notePointer_sameLink {e : PointerEvent} : c.SameLink (c.notePointer e) := by
  unfold notePointer
  split <;> exact sameLink_refl c

end SimController

/-! ## Relations an action keeps -/

namespace Action

/-- The station after `x` is related by `R` to the station before, whatever `x` answers. -/
def Keeps {α : Type} (R : Station → Station → Prop) (x : Action α) : Prop :=
  ∀ s, R s (x s).1

namespace Keeps

variable {α β : Type} {R R' : Station → Station → Prop}

theorem mono (hR : ∀ s t, R s t → R' s t) {x : Action α} (hx : Keeps R x) : Keeps R' x :=
  fun s => hR _ _ (hx s)

theorem attempt {x : Action α} (hx : Keeps R x) : Keeps R (Action.attempt x) := hx

theorem ite {p : Prop} [Decidable p] {x y : Action α} (hx : Keeps R x) (hy : Keeps R y) :
    Keeps R (if p then x else y) := by
  split
  · exact hx
  · exact hy

section Preorder

variable [IsPreorder Station R]

theorem pure (a : α) : Keeps R (Pure.pure a : Action α) := fun s => Std.Refl.refl s

theorem throw (e : Error) : Keeps R (MonadExceptOf.throw e : Action α) :=
  fun s => Std.Refl.refl s

theorem get : Keeps R Action.get := fun s => Std.Refl.refl s

theorem result (r : Except Error α) : Keeps R (Action.result r) := fun s => Std.Refl.refl s

theorem bind {x : Action α} {f : α → Action β} (hx : Keeps R x) (hf : ∀ a, Keeps R (f a)) :
    Keeps R (x >>= f) := by
  intro s
  rw [bind_apply]
  have hxs := hx s
  rcases hrun : x s with ⟨s', r⟩
  rw [hrun] at hxs
  cases r with
  | error e => exact hxs
  | ok a => exact IsTrans.trans _ _ _ hxs (hf a s')

theorem map {x : Action α} (f : α → β) (hx : Keeps R x) : Keeps R (f <$> x) :=
  bind hx fun a => pure (f a)

/-! ### Operations that only read the station -/

theorem askController {f : SimController → Except Error α} :
    Keeps R (Station.askController f) := fun s => Std.Refl.refl s

theorem require (operation : String) (required : SessionState) :
    Keeps R (Station.require operation required) := by
  intro s
  simp only [Station.require]
  split <;> exact Std.Refl.refl s

theorem requireConnected (operation : String) : Keeps R (Station.requireConnected operation) := by
  intro s
  simp only [Station.requireConnected]
  split <;> exact Std.Refl.refl s

theorem requireLocalFile (path : String) : Keeps R (Station.requireLocalFile path) := by
  intro s
  simp only [Station.requireLocalFile]
  split <;> exact Std.Refl.refl s

theorem readModule (path : String) : Keeps R (Station.readModule path) := by
  intro s
  simp only [Station.readModule]
  split <;> exact Std.Refl.refl s

theorem operatingMode : Keeps R Station.operatingMode :=
  bind (requireConnected _) fun _ => askController

theorem requireAuto : Keeps R Station.requireAuto :=
  bind operatingMode fun _ => ite (throw _) (pure _)

theorem lookup (module name : String) : Keeps R (Station.lookup module name) := by
  unfold Station.lookup
  refine bind askController fun d => ?_
  split
  · exact pure _
  · exact throw _

theorem readNamedValue (module name : String) : Keeps R (Station.readNamedValue module name) :=
  bind (requireConnected _) fun _ => bind (lookup _ _) fun _ => result _

theorem searchData (module : String) : Keeps R (Station.searchData module) :=
  bind (requireConnected _) fun _ => askController

theorem programPointer : Keeps R Station.programPointer :=
  bind (requireConnected _) fun _ => askController

theorem currentPosition : Keeps R Station.currentPosition :=
  bind (requireConnected _) fun _ => bind askController fun _ =>
    bind askController fun _ => pure _

end Preorder

end Keeps

end Action

/-! ## Operations that leave the link alone -/

namespace Station

open RobotProgram.Action

/-- The session of `t` is that of `s`, and so is the link of their controllers. -/
def SameLink (s t : Station) : Prop :=
  t.session = s.session ∧ s.controller.SameLink t.controller

instance : IsPreorder Station SameLink where
  refl s := ⟨rfl, SimController.sameLink_refl s.controller⟩
  trans _ _ _ h₁ h₂ :=
    ⟨h₂.1.trans h₁.1, h₂.2.1.trans h₁.2.1, h₂.2.2.1.trans h₁.2.2.1, h₂.2.2.2.trans h₁.2.2.2⟩

namespace SameLink

theorem modify {f : Station → Station} (hf : ∀ s, SameLink s (f s)) :
    Keeps SameLink (Action.modify f) := hf

theorem changeController {f : SimController → Except Error SimController}
    (hf : ∀ c c' : SimController, f c = .ok c' → c.SameLink c') :
    Keeps SameLink (Station.changeController f) := by
  intro s
  simp only [Station.changeController]
  split
  · next c hc => exact ⟨rfl, hf _ _ hc⟩
  · exact Std.Refl.refl s

theorem stepController {f : SimController → SimController × Except Error Unit}
    (hf : ∀ c : SimController, c.SameLink (f c).1) : Keeps SameLink (Station.stepController f) :=
  fun s => ⟨rfl, hf s.controller⟩

theorem control {f : SimController → SimController} (hf : ∀ c : SimController, c.SameLink (f c)) :
    Keeps SameLink (Station.control f) := fun s => ⟨rfl, hf s.controller⟩

theorem changeFiles (f : LocalFiles → Except FileFault LocalFiles) :
    Keeps SameLink (Station.changeFiles f) := by
  intro s
  simp only [Station.changeFiles]
  split <;> exact ⟨rfl, SimController.sameLink_refl _⟩

theorem writeLocal (path text : String) : Keeps SameLink (Station.writeLocal path text) := by
  intro s
  simp only [Station.writeLocal]
  split <;> exact ⟨rfl, SimController.sameLink_refl _⟩

theorem emitPointer (e : PointerEvent) : Keeps SameLink (Station.emitPointer e) :=
  fun _ => ⟨rfl, SimController.notePointer_sameLink⟩

theorem setTracker (name : String) (t : Tracker) : Keeps SameLink (Station.setTracker name t) :=
  modify fun s => by split <;> exact ⟨rfl, SimController.sameLink_refl _⟩

theorem transfer (operation path : String) : Keeps SameLink (Station.transfer operation path) := by
  unfold Station.transfer
  refine Keeps.bind (Keeps.requireLocalFile path) fun _ =>
    Keeps.bind (Keeps.require _ _) fun _ => ?_
  split
  · exact Keeps.bind Keeps.get fun _ =>
      Keeps.bind (changeController fun _ _ => SimController.putFile_sameLink) fun _ =>
        Keeps.pure _
  · exact Keeps.throw _

theorem uploadModule (path : String) (mode : LoadMode) :
    Keeps SameLink (Station.uploadModule path mode) :=
  Keeps.bind (transfer _ _) fun _ => stepController fun _ => SimController.loadModule_sameLink

theorem uploadProgram (path : String) : Keeps SameLink (Station.uploadProgram path) :=
  Keeps.bind (transfer _ _) fun _ => stepController fun _ => SimController.loadProgram_sameLink

theorem startExecution : Keeps SameLink Station.startExecution := by
  unfold Station.startExecution
  have reset_start : Keeps SameLink (do
      Station.changeController SimController.resetProgramPointer
      Station.changeController SimController.start) :=
    Keeps.bind (changeController fun _ _ h => (SimController.resetProgramPointer_eq_ok h).2)
      fun _ => changeController fun _ _ h => (SimController.start_eq_ok h).2
  exact Keeps.bind (Keeps.require _ _) fun _ => Keeps.bind Keeps.askController fun _ =>
    Keeps.ite (Keeps.bind (Keeps.throw _) fun _ => reset_start) reset_start

theorem writeNamedValue (module name : String) (value : DataValue) :
    Keeps SameLink (Station.writeNamedValue module name value) := by
  unfold Station.writeNamedValue
  have write : Keeps SameLink
      (Station.changeController fun c => c.setData module name value.text) :=
    changeController fun _ _ h => (SimController.setData_eq_ok h).2
  exact Keeps.bind (Keeps.require _ _) fun _ => Keeps.bind (Keeps.lookup _ _) fun _ =>
    Keeps.ite (Keeps.bind (Keeps.throw _) fun _ => write) write

theorem writeNamedText (module name text : String) :
    Keeps SameLink (Station.writeNamedText module name text) :=
  Keeps.bind (Keeps.result _) fun _ => writeNamedValue _ _ _

theorem setProgramPointer (module : String) (row : Nat) :
    Keeps SameLink (Station.setProgramPointer module row) :=
  Keeps.bind (Keeps.require _ _) fun _ =>
    changeController fun _ _ h => (SimController.setProgramPointer_eq_ok h).2

theorem writeProgramFiles (files : ProgramFiles) (text : String) :
    Keeps SameLink (Station.writeProgramFiles files text) := by
  unfold Station.writeProgramFiles
  split
  · exact Keeps.bind (writeLocal _ _) fun _ => writeLocal _ _
  · exact Keeps.throw _

theorem attachTracker (name : String) : Keeps SameLink (Station.attachTracker name) :=
  Keeps.bind (Keeps.requireConnected _) fun _ => Keeps.bind Keeps.get fun _ =>
    Keeps.bind (Keeps.result _) fun _ => setTracker _ _

theorem detachTracker (name : String) : Keeps SameLink (Station.detachTracker name) :=
  Keeps.bind Keeps.get fun _ => setTracker _ _

end SameLink

/-! ## Opening and closing scopes -/

theorem logon_eq (handle : ControllerHandle) (s : Station) : logon handle s =
    if s.session.state = .disconnected then
      match s.controller.logon handle s.session.user with
      | .ok c => ({ s with controller := c,
                           session := { s.session with state := .loggedOn,
                                                       handle := some handle } }, .ok ())
      | .error e => (s, .error e)
    else (s, .error (.invalidSessionState "logon" "Disconnected" s.session.state.name)) := by
  by_cases hs : s.session.state = .disconnected
  · simp only [logon, bind_apply, Station.require, hs, Action.get, Station.changeController,
      Action.modify, if_true]
    cases s.controller.logon handle s.session.user <;> rfl
  · simp only [logon, bind_apply, Station.require, hs, if_false]
    rfl

theorem logoff_eq (s : Station) : logoff s =
    if s.session.state = .disconnected then (s, .ok ())
    else
      let c := if s.session.state = .mastershipHeld then s.controller.releaseMastership.1
        else s.controller
      ({ s with controller := c.logoff,
                session := { s.session with state := .disconnected, handle := none } },
       .ok ()) := by
  by_cases hd : s.session.state = .disconnected
  · simp only [logoff, bind_apply, Action.get, hd, if_true]
    rfl
  · by_cases hm : s.session.state = .mastershipHeld
    · simp only [logoff, bind_apply, Action.get, hm, if_true]
      rfl
    · simp only [logoff, bind_apply, Action.get, hd, hm, if_false, Action.modify]

theorem enterMastership_eq (s : Station) : enterMastership s =
    if s.session.state = .loggedOn then
      match s.controller.requestMastership with
      | .ok c => ({ s with controller := c,
                           session := { s.session with state := .mastershipHeld } }, .ok ())
      | .error e => (s, .error e)
    else
      (s, .error (.invalidSessionState "acquire mastership" "LoggedOn" s.session.state.name)) := by
  by_cases hs : s.session.state = .loggedOn
  · simp only [enterMastership, bind_apply, Station.require, hs, Station.changeController,
      setState, Action.modify, if_true]
    cases s.controller.requestMastership <;> rfl
  · simp only [enterMastership, bind_apply, Station.require, hs, if_false]
    rfl

theorem exitMastership_eq {α : Type} (r : Except Error α) (s : Station) : exitMastership r s =
    ({ s with controller := s.controller.releaseMastership.1,
              session := { s.session with state := .loggedOn } },
     match r, s.controller.releaseMastership.2 with
     | .ok v, .ok () => .ok v
     | .ok _, .error e => .error e
     | .error e, _ => .error e) := by
  simp only [exitMastership, bind_apply, Action.attempt, stepController, setState, Action.modify]
  cases r <;> cases s.controller.releaseMastership.2 <;> rfl

theorem logoff_snd (s : Station) : (logoff s).2 = .ok () := by
  rw [logoff_eq]
  split <;> rfl

theorem withLogon_eq {α : Type} (handle : ControllerHandle) (body : Action α) (s : Station) :
    withLogon handle body s =
      match logon handle s with
      | (s1, .ok ()) => ((logoff (body s1).1).1, (body s1).2)
      | (s1, .error e) => (s1, .error e) := by
  simp only [withLogon, bind_apply, Action.attempt]
  rcases logon handle s with ⟨s1, _ | ⟨⟨⟩⟩⟩
  · rfl
  · dsimp only
    rcases hoff : logoff (body s1).1 with ⟨s3, r⟩
    have hr : r = .ok () := by rw [← logoff_snd (body s1).1, hoff]
    subst hr
    rfl

theorem withMastership_eq {α : Type} (body : Action α) (s : Station) :
    withMastership body s =
      match enterMastership s with
      | (s1, .ok ()) => exitMastership (body s1).2 (body s1).1
      | (s1, .error e) => (s1, .error e) := by
  simp only [withMastership, bind_apply, Action.attempt]
  rcases enterMastership s with ⟨s1, _ | ⟨⟨⟩⟩⟩ <;> rfl

end Station

end RobotProgram
