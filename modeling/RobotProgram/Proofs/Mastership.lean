import RobotProgram.Proofs.Session
/-!
# RobotProgram.Proofs.Mastership

Mastership is tracked twice: by the session (`MastershipHeld`) and by the controller (its
`mastership` flag). This module shows that the two agree over every run of a client through its
session, however its scopes nest and whatever fails, and that the controller is only changed
under mastership.

* `Snapshot.Synced`: the controller holds mastership exactly when the session is
  `MastershipHeld`. Every step a client takes through its session keeps it, and so does every
  scope, at every depth.
* `Snapshot.Released`: neither side holds mastership. A scope that took mastership always ends
  so, whatever its body did, so `Released` holds outside every mastership scope.
* `withMastership_answer`: a scope that takes mastership ends `LoggedOn`, with the body's error,
  else the release error, else the body's value.
* `runCommand_step_eq_ok`, `runCommand_withMastership_eq_ok`, `runCommand_withLogon_eq_ok`,
  `runBody_cons_eq_ok`, `runAll_cons_eq_ok`: what one command, body or run of the bench can do,
  said once for every theory of runs.
* `RefusedUnlessHeld`: every session operation that changes programs, data, the program pointer,
  execution or stored files is refused, and changes nothing, unless the session is
  `MastershipHeld`; and the controller itself grants each such change but storing a file only
  with mastership, which a synced session holds only when `MastershipHeld`.

Main statement: `mastership_agrees`.
-/

namespace RobotProgram

/-! ## Runs through the session -/

/-- The deploy workflows that only read the controller, in a logon scope of their own. -/
def Step.isReadWorkflow : Step → Bool
  | .readTargetData .. | .readProgramData .. | .currentPositionOn _ => true
  | _ => false

/-- The deploy workflows: each runs in a logon scope of its own, and the three that change the
controller in a mastership scope inside it. -/
def Step.isWorkflow : Step → Bool
  | .sendProgram .. | .sendTarget .. | .setPointer .. => true
  | st => st.isReadWorkflow

/-- A raw call goes to the controller directly, past the session and its checks. -/
def Step.isRaw : Step → Bool
  | .rawLogon .. | .rawLogoff | .rawRequestMastership | .rawReleaseMastership | .rawStart
  | .rawResetProgramPointer | .rawPutFile .. | .rawLoadModule .. | .rawLoadProgram ..
  | .rawSetData .. | .rawGetData .. => true
  | _ => false

mutual

/-- Every step of the command, at every depth, goes through the session. -/
def Command.throughSession : Command → Bool
  | .step _ st => !st.isRaw
  | .withMastership body => Command.allThroughSession body
  | .withLogon _ body => Command.allThroughSession body

/-- Every step of the commands, at every depth, goes through the session. -/
def Command.allThroughSession : List Command → Bool
  | [] => true
  | c :: cs => c.throughSession && Command.allThroughSession cs

end

/-! ## What a snapshot shows -/

namespace Snapshot

/-- The controller holds mastership exactly when the session is `MastershipHeld`. -/
def Synced (snap : Snapshot) : Prop :=
  snap.mastership = true ↔ snap.state = .mastershipHeld

/-- Neither the controller nor the session holds mastership. -/
def Released (snap : Snapshot) : Prop :=
  snap.mastership = false ∧ snap.state ≠ .mastershipHeld

/-- What a snapshot taken inside a mastership scope (`outside = false`) or outside every one
shows: the two flags agree, and outside neither holds mastership. -/
def Agrees (outside : Bool) (snap : Snapshot) : Prop :=
  snap.Synced ∧ (outside = true → snap.Released)

variable {snap : Snapshot}

theorem Released.synced (h : snap.Released) : snap.Synced := by
  obtain ⟨hflag, hstate⟩ := h
  simp only [Synced, hflag, Bool.false_eq_true, false_iff]
  exact hstate

theorem Released.agrees (h : snap.Released) (outside : Bool) : snap.Agrees outside :=
  ⟨h.synced, fun _ => h⟩

end Snapshot

namespace Station

open RobotProgram.Action

@[simp] theorem snapshot_state (s : Station) : s.snapshot.state = s.session.state := rfl

@[simp] theorem snapshot_mastership (s : Station) :
    s.snapshot.mastership = s.controller.mastership := rfl

/-- Whenever `P` holds of `s` it holds of `t`. -/
def Preserving (P : Station → Prop) (s t : Station) : Prop := P s → P t

instance {P : Station → Prop} : IsPreorder Station (Preserving P) where
  refl _ := id
  trans _ _ _ h₁ h₂ := h₂ ∘ h₁

/-- An action after which the two flags agree as they did before, inside a mastership scope
(`outside = false`) or outside every one. -/
abbrev KeepsAgreement {α : Type} (outside : Bool) (x : Action α) : Prop :=
  Keeps (Preserving fun s => s.snapshot.Agrees outside) x

variable {outside : Bool} {s : Station}

theorem SameLink.agrees {t : Station} (h : SameLink s t)
    (hs : s.snapshot.Agrees outside) : t.snapshot.Agrees outside := by
  obtain ⟨hsession, -, hflag, -⟩ := h
  simpa only [Snapshot.Agrees, Snapshot.Synced, Snapshot.Released, snapshot_state,
    snapshot_mastership, hsession, hflag] using hs

theorem SameLink.keeps {α : Type} {x : Action α} (hx : Keeps SameLink x) :
    KeepsAgreement outside x :=
  Keeps.mono (fun _ _ h => h.agrees) hx

/-! ## Opening and closing scopes -/


theorem releaseMastership_mastership (c : SimController) :
    c.releaseMastership.1.mastership = false := by
  unfold SimController.releaseMastership
  split <;> rfl

/-- A failed logon changes nothing. -/
theorem logon_error {handle : ControllerHandle} {e : Error} (h : (logon handle s).2 = .error e) :
    (logon handle s).1 = s := by
  rw [logon_eq] at h ⊢
  split at h
  · split at h
    · cases h
    · next hlogon => simp only [*, if_true]
  · next hd => simp only [hd, if_false]

/-- A logon fails and changes nothing, or it succeeds. -/
theorem logon_cases (handle : ControllerHandle) (s : Station) :
    (∃ e, logon handle s = (s, .error e)) ∨ ∃ s1, logon handle s = (s1, .ok ()) := by
  rcases hr : logon handle s with ⟨s1, e | ⟨⟨⟩⟩⟩
  · have hs1 := logon_error (show (logon handle s).2 = .error e by rw [hr])
    rw [hr] at hs1
    obtain rfl : s1 = s := hs1
    exact .inl ⟨e, rfl⟩
  · exact .inr ⟨s1, rfl⟩

/-- A logon from a synced station leaves neither side holding mastership. -/
theorem logon_released {handle : ControllerHandle} (hs : s.snapshot.Synced)
    (h : (logon handle s).2 = .ok ()) : (logon handle s).1.snapshot.Released := by
  rw [logon_eq] at h ⊢
  split at h
  · next hd =>
    split at h
    · next c hc =>
      have hflag : s.controller.mastership = false := by
        simpa [Snapshot.Synced, hd] using hs
      simp only [hd, if_true]
      refine ⟨?_, by simp⟩
      simpa [SimController.logon_eq_ok hc] using hflag
    · cases h
  · cases h

/-- Logging off a synced station leaves neither side holding mastership. -/
theorem logoff_released (hs : s.snapshot.Synced) : (logoff s).1.snapshot.Released := by
  rw [logoff_eq]
  split
  · next hd =>
    have hflag : s.controller.mastership = false := by
      simpa [Snapshot.Synced, hd] using hs
    exact ⟨hflag, by simp [hd]⟩
  · exact ⟨rfl, by simp⟩

/-- A failed attempt to take mastership changes nothing. -/
theorem enterMastership_error {e : Error} (h : (enterMastership s).2 = .error e) :
    (enterMastership s).1 = s := by
  rw [enterMastership_eq] at h ⊢
  split at h
  · split at h
    · cases h
    · simp only [*, if_true]
  · next hl => simp only [hl, if_false]

/-- An attempt to take mastership fails and changes nothing, or it succeeds. -/
theorem enterMastership_cases (s : Station) :
    (∃ e, enterMastership s = (s, .error e)) ∨ ∃ s1, enterMastership s = (s1, .ok ()) := by
  rcases hr : enterMastership s with ⟨s1, e | ⟨⟨⟩⟩⟩
  · have hs1 := enterMastership_error (show (enterMastership s).2 = .error e by rw [hr])
    rw [hr] at hs1
    obtain rfl : s1 = s := hs1
    exact .inl ⟨e, rfl⟩
  · exact .inr ⟨s1, rfl⟩

/-- Taking mastership puts both sides in it. -/
theorem enterMastership_ok (h : (enterMastership s).2 = .ok ()) :
    (enterMastership s).1.controller.mastership = true ∧
      (enterMastership s).1.session.state = .mastershipHeld := by
  rw [enterMastership_eq] at h ⊢
  split at h
  · next hl =>
    split at h
    · next c hc =>
      simpa [hl] using (SimController.requestMastership_eq_ok hc).2
    · cases h
  · cases h

/-- Giving mastership back leaves neither side holding it, whatever happened before. -/
theorem exitMastership_released {α : Type} (r : Except Error α) :
    (exitMastership r s).1.snapshot.Released := by
  rw [exitMastership_eq]
  exact ⟨releaseMastership_mastership _, by simp⟩

theorem logon_keepsAgreement (handle : ControllerHandle) :
    KeepsAgreement outside (logon handle) := by
  intro s hs
  rcases hr : (logon handle s).2 with e | ⟨⟨⟩⟩
  · rw [logon_error hr]
    exact hs
  · exact (logon_released hs.1 hr).agrees outside

theorem logoff_keepsAgreement : KeepsAgreement outside logoff :=
  fun _ hs => (logoff_released hs.1).agrees outside

/-- A mastership scope ends with neither side holding mastership if it took it, and changes
nothing if it did not: whatever its body does. -/
theorem withMastership_keepsAgreement {α : Type} (body : Action α) :
    KeepsAgreement outside (withMastership body) := by
  intro s hs
  rw [withMastership_eq]
  obtain ⟨e, hr⟩ | ⟨s1, hr⟩ := enterMastership_cases s <;> rw [hr]
  · exact hs
  · exact (exitMastership_released _).agrees outside

/-- A logon scope keeps the agreement if its body keeps it outside mastership scopes: the body
starts with neither side holding mastership. -/
theorem withLogon_keepsAgreement {α : Type} (handle : ControllerHandle) {body : Action α}
    (hbody : KeepsAgreement true body) : KeepsAgreement outside (withLogon handle body) := by
  intro s hs
  rw [withLogon_eq]
  obtain ⟨e, hr⟩ | ⟨s1, hr⟩ := logon_cases handle s
  · rw [hr]
    exact hs
  · have hs1 := logon_released hs.1 (show (logon handle s).2 = .ok () by rw [hr])
    rw [hr] at hs1 ⊢
    have hs2 := hbody s1 (hs1.agrees true)
    exact (logoff_released hs2.1).agrees outside

/-! ## Steps -/

section Workflows

variable {R : Station → Station → Prop} [IsPreorder Station R]

/-- A relation that a logon scope keeps around a body that keeps the link is kept by the read
workflows: they read their answer inside such a scope. -/
theorem runStep_read_keeps
    (hwithLogon : ∀ {α : Type} handle {body : Action α}, Keeps SameLink body →
      Keeps R (withLogon handle body))
    (st : Step) (hst : st.isReadWorkflow = true) : Keeps R (runStep st) := by
  cases st <;> cases hst
  case readTargetData | readProgramData =>
    exact Keeps.map _ (hwithLogon _ (Keeps.bind (Keeps.searchData _) fun _ => Keeps.result _))
  case currentPositionOn =>
    exact Keeps.bind (hwithLogon _ Keeps.currentPosition) fun ⟨_, _⟩ => Keeps.pure _

/-- A relation that logon scopes keep, around a body that keeps the link or around a mastership
scope with such a body, is kept by every workflow: each checks its input without changing
anything, then opens its scopes. -/
theorem runStep_workflow_keeps
    (hwithLogon : ∀ {α : Type} handle {body : Action α}, Keeps SameLink body →
      Keeps R (withLogon handle body))
    (hwithLogonHeld : ∀ {α : Type} handle {body : Action α}, Keeps SameLink body →
      Keeps R (withLogon handle (withMastership body)))
    (st : Step) (hst : st.isWorkflow = true) : Keeps R (runStep st) := by
  cases st
  case sendProgram =>
    exact Keeps.bind (Keeps.bind (Keeps.requireLocalFile _) fun _ =>
      Keeps.bind (Keeps.requireLocalFile _) fun _ =>
        hwithLogonHeld _ (Keeps.bind Keeps.requireAuto fun _ =>
          Keeps.bind (SameLink.uploadProgram _) fun _ =>
            Keeps.bind (SameLink.uploadModule _ _) fun _ => SameLink.startExecution))
      fun _ => Keeps.pure _
  case sendTarget =>
    exact Keeps.bind (Keeps.bind (Keeps.result _) fun _ =>
      hwithLogonHeld _ (Keeps.bind Keeps.requireAuto fun _ =>
        Keeps.bind (SameLink.writeNamedValue _ _ _) fun _ => SameLink.startExecution))
      fun _ => Keeps.pure _
  case setPointer =>
    exact Keeps.bind (hwithLogonHeld _ (SameLink.setProgramPointer _ _)) fun _ => Keeps.pure _
  -- every other workflow only reads
  all_goals exact runStep_read_keeps hwithLogon _ hst

end Workflows

section Steps

variable {P : Station → Prop}

/-- A property of stations that survives whatever keeps the link, a logon, and the logon scopes
the workflows open (around a body that keeps the link, or around a mastership scope with such a
body) is kept by every step through the session but a logoff. -/
theorem runStep_keeps (sameLink : ∀ {s t : Station}, SameLink s t → P s → P t)
    (hlogon : ∀ handle, Keeps (Preserving P) (logon handle))
    (hwithLogon : ∀ {α : Type} handle {body : Action α}, Keeps SameLink body →
      Keeps (Preserving P) (withLogon handle body))
    (hwithLogonHeld : ∀ {α : Type} handle {body : Action α}, Keeps SameLink body →
      Keeps (Preserving P) (withLogon handle (withMastership body))) :
    ∀ st : Step, st.isRaw = false → st ≠ .logoff → Keeps (Preserving P) (runStep st) := by
  have linked {α : Type} {x : Action α} (hx : Keeps SameLink x) : Keeps (Preserving P) x :=
    Keeps.mono (fun _ _ h => sameLink h) hx
  intro st hst hoff
  match st, hst, hoff with
  | .setReachable _, _, _ | .setCredentials _, _, _ | .setMode _, _, _ | .rejectNextLoad _, _, _
  | .failNextRelease, _, _ | .setCurrentPosition _ _, _, _ =>
    exact linked (SameLink.control fun c => SimController.sameLink_refl c)
  | .emitPointer _, _, _ => exact linked (Keeps.map _ (SameLink.emitPointer _))
  | .storedFile _, _, _ | .dataValue _ _, _, _ | .state, _, _ | .sessionHandle, _, _
  | .trackerAttached _, _, _ | .trackerSamples _ _, _, _ | .trackerLatest _ _, _, _ =>
    exact Keeps.bind Keeps.get fun _ => Keeps.pure _
  | .writeFile _ _, _, _ | .makeDirectory _, _, _ => exact linked (SameLink.changeFiles _)
  | .writeProgramFiles _ _, _, _ =>
    exact Keeps.bind (linked (SameLink.writeProgramFiles _ _)) fun _ => Keeps.pure _
  | .readModule _, _, _ => exact Keeps.map _ (Keeps.readModule _)
  | .writeModule _ _, _, _ => exact Keeps.bind (linked (SameLink.writeLocal _ _)) fun _ => Keeps.pure _
  | .logon _, _, _ => exact Keeps.bind (hlogon _) fun _ => Keeps.pure _
  | .logoff, _, h => exact absurd rfl h
  | .operatingMode, _, _ => exact Keeps.bind Keeps.operatingMode fun _ => Keeps.pure _
  | .uploadModule _ _, _, _ =>
    exact Keeps.bind (linked (SameLink.uploadModule _ _)) fun _ => Keeps.pure _
  | .uploadProgram _, _, _ => exact Keeps.bind (linked (SameLink.uploadProgram _)) fun _ => Keeps.pure _
  | .startExecution, _, _ => exact Keeps.bind (linked SameLink.startExecution) fun _ => Keeps.pure _
  | .writeNamedValue _ _ _, _, _ =>
    exact Keeps.bind (linked (SameLink.writeNamedValue _ _ _)) fun _ => Keeps.pure _
  | .writeNamedText _ _ _, _, _ =>
    exact Keeps.bind (linked (SameLink.writeNamedText _ _ _)) fun _ => Keeps.pure _
  | .readNamedValue _ _, _, _ => exact Keeps.map _ (Keeps.readNamedValue _ _)
  | .searchData _, _, _ => exact Keeps.map _ (Keeps.searchData _)
  | .setProgramPointer _ _, _, _ =>
    exact Keeps.bind (linked (SameLink.setProgramPointer _ _)) fun _ => Keeps.pure _
  | .programPointer, _, _ => exact Keeps.map _ Keeps.programPointer
  | .currentPosition, _, _ => exact Keeps.bind Keeps.currentPosition fun ⟨_, _⟩ => Keeps.pure _
  | .sendProgram _ _, _, _ | .sendTarget _ _ _ _, _, _ | .setPointer _ _ _, _, _
  | .readTargetData _ _, _, _ | .readProgramData _ _, _, _ | .currentPositionOn _, _, _ =>
    exact runStep_workflow_keeps hwithLogon hwithLogonHeld _ rfl
  | .trackerAttach _, _, _ => exact Keeps.bind (linked (SameLink.attachTracker _)) fun _ => Keeps.pure _
  | .trackerDetach _, _, _ => exact Keeps.bind (linked (SameLink.detachTracker _)) fun _ => Keeps.pure _
  | .rawLogon .., h, _ | .rawLogoff, h, _ | .rawRequestMastership, h, _
  | .rawReleaseMastership, h, _ | .rawStart, h, _ | .rawResetProgramPointer, h, _
  | .rawPutFile .., h, _ | .rawLoadModule .., h, _ | .rawLoadProgram .., h, _
  | .rawSetData .., h, _ | .rawGetData .., h, _ => exact nomatch h

/-- The bench's own steps only touch the local files, so what it runs keeps what the step
keeps. -/
theorem perform_keeps (sameLink : ∀ {s t : Station}, SameLink s t → P s → P t) {st : Step}
    (hst : Keeps (Preserving P) (runStep st)) {s s' : Station} {r : Except Error Reply}
    (h : perform st s = .ok (s', r)) (hs : P s) : P s' := by
  have untouched (fs : LocalFiles) : P { s with files := fs } :=
    sameLink (s := s) ⟨rfl, SimController.sameLink_refl _⟩ hs
  unfold perform at h
  dsimp only at h
  split at h
  · split at h
    · cases h; exact untouched _
    · cases h
  · split at h
    · cases h; exact untouched _
    · cases h
  · split at h
    · obtain rfl : (runStep _ s).1 = s' := congrArg Prod.fst (Except.ok.inj h)
      exact hst s hs
    · cases h
  · obtain rfl : (runStep _ s).1 = s' := congrArg Prod.fst (Except.ok.inj h)
    exact hst s hs

end Steps

/-- Every step but a raw call keeps the agreement of the two flags; the workflows open their own
logon and mastership scopes and close them again. -/
theorem runStep_keepsAgreement (outside : Bool) (st : Step) (hst : st.isRaw = false) :
    KeepsAgreement outside (runStep st) := by
  by_cases hoff : st = .logoff
  · subst hoff
    exact Keeps.bind logoff_keepsAgreement fun _ => Keeps.pure _
  · exact runStep_keeps SameLink.agrees logon_keepsAgreement
      (fun _ _ hbody => withLogon_keepsAgreement _ (SameLink.keeps hbody))
      (fun _ _ _ => withLogon_keepsAgreement _ (withMastership_keepsAgreement _)) st hst hoff

theorem perform_keepsAgreement {st : Step} (hst : st.isRaw = false) {s' : Station}
    {r : Except Error Reply} (h : perform st s = .ok (s', r)) (hs : s.snapshot.Agrees outside) :
    s'.snapshot.Agrees outside :=
  perform_keeps SameLink.agrees (runStep_keepsAgreement outside st hst) h hs

/-! ## Commands -/

end Station

/-- The snapshot of a record and those of the records of its body, at every depth, agree;
`outside` says the record was taken outside every mastership scope, and the body of a
mastership scope is inside one. -/
inductive Record.Agrees : Bool → Record → Prop
  | intro {outside : Bool} {r : Record} (after : r.after.Agrees outside)
      (body : ∀ records, r.body = some records → ∀ x ∈ records,
        Record.Agrees (outside && r.op != "with_mastership") x) :
      Record.Agrees outside r

namespace Station

open RobotProgram.Action

/-! ### What a command, a body and a run can do

Each of these says once how the bench runs one shape of command, so that the theories of runs
open a run by these lemmas and never by unfolding `runCommand`. -/

section Inversion

variable {s s' : Station} {r : Record}

/-- A step run as a command ends where the step ends and records its answer. -/
theorem runCommand_step_eq_ok {op : String} {st : Step} :
    runCommand s (.step op st) = .ok (s', r) ↔
      ∃ res, perform st s = .ok (s', res) ∧ r = ⟨op, res, none, s'.snapshot⟩ := by
  simp only [runCommand, Except.bind_eq_ok]
  constructor
  · rintro ⟨⟨s1, res⟩, hperf, h⟩
    simp only [Except.pure_eq_ok, Prod.mk.injEq] at h
    obtain ⟨rfl, rfl⟩ := h
    exact ⟨res, hperf, rfl⟩
  · rintro ⟨res, hperf, rfl⟩
    exact ⟨(s', res), hperf, rfl⟩

/-- A mastership scope run as a command is refused and changes nothing, or runs its body
between taking mastership and giving it back. -/
theorem runCommand_withMastership_eq_ok {body : List Command}
    (h : runCommand s (.withMastership body) = .ok (s', r)) :
    (∃ e, enterMastership s = (s, .error e) ∧ s' = s ∧
        r = ⟨"with_mastership", .error e, some [], s.snapshot⟩) ∨
      ∃ s1 s2 records res, enterMastership s = (s1, .ok ()) ∧
        runBody s1 body = .ok (s2, records, res) ∧ s' = (exitMastership res s2).1 ∧
        r = ⟨"with_mastership", (exitMastership res s2).2.map fun _ => .none, some records,
          s'.snapshot⟩ := by
  simp only [runCommand] at h
  obtain ⟨e, hr⟩ | ⟨s1, hr⟩ := enterMastership_cases s <;> rw [hr] at h
  · simp only [Except.pure_eq_ok, Prod.mk.injEq] at h
    obtain ⟨rfl, rfl⟩ := h
    exact .inl ⟨e, hr, rfl, rfl⟩
  · obtain ⟨⟨s2, records, res⟩, hbody, h⟩ := Except.bind_eq_ok.1 h
    simp only [Except.pure_eq_ok, Prod.mk.injEq] at h
    obtain ⟨rfl, rfl⟩ := h
    exact .inr ⟨s1, s2, records, res, hr, hbody, rfl, rfl⟩

/-- A logon scope run as a command is refused and changes nothing, or runs its body between
logging on and logging off. -/
theorem runCommand_withLogon_eq_ok {handle : ControllerHandle} {body : List Command}
    (h : runCommand s (.withLogon handle body) = .ok (s', r)) :
    (∃ e, logon handle s = (s, .error e) ∧ s' = s ∧
        r = ⟨"with_logon", .error e, some [], s.snapshot⟩) ∨
      ∃ s1 s2 records res, logon handle s = (s1, .ok ()) ∧
        runBody s1 body = .ok (s2, records, res) ∧ s' = (logoff s2).1 ∧
        r = ⟨"with_logon", res.map fun _ => .none, some records, s'.snapshot⟩ := by
  simp only [runCommand] at h
  obtain ⟨e, hr⟩ | ⟨s1, hr⟩ := logon_cases handle s <;> rw [hr] at h
  · simp only [Except.pure_eq_ok, Prod.mk.injEq] at h
    obtain ⟨rfl, rfl⟩ := h
    exact .inl ⟨e, hr, rfl, rfl⟩
  · obtain ⟨⟨s2, records, res⟩, hbody, h⟩ := Except.bind_eq_ok.1 h
    simp only [Except.pure_eq_ok, Prod.mk.injEq] at h
    obtain ⟨rfl, rfl⟩ := h
    exact .inr ⟨s1, s2, records, res, hr, hbody, rfl, rfl⟩

theorem runBody_nil_eq_ok {records : List Record} {res : Except Error Unit} :
    runBody s [] = .ok (s', records, res) ↔ s' = s ∧ records = [] ∧ res = .ok () := by
  simp only [runBody, Except.pure_eq_ok, Prod.mk.injEq]
  constructor <;> rintro ⟨rfl, rfl, rfl⟩ <;> exact ⟨rfl, rfl, rfl⟩

/-- A body runs its first command, and stops after it if it fails. -/
theorem runBody_cons_eq_ok {c : Command} {cs : List Command} {records : List Record}
    {res : Except Error Unit} (h : runBody s (c :: cs) = .ok (s', records, res)) :
    ∃ s1 record, runCommand s c = .ok (s1, record) ∧
      ((∃ e, record.result = .error e ∧ s' = s1 ∧ records = [record] ∧ res = .error e) ∨
        ∃ rest, runBody s1 cs = .ok (s', rest, res) ∧ records = record :: rest) := by
  simp only [runBody, Except.bind_eq_ok] at h
  obtain ⟨⟨s1, record⟩, hc, h⟩ := h
  refine ⟨s1, record, hc, ?_⟩
  split at h
  · next e he =>
    simp only [Except.pure_eq_ok, Prod.mk.injEq] at h
    obtain ⟨rfl, rfl, rfl⟩ := h
    exact .inl ⟨e, he, rfl, rfl, rfl⟩
  · obtain ⟨⟨s2, rest, res'⟩, hrest, h⟩ := Except.bind_eq_ok.1 h
    simp only [Except.pure_eq_ok, Prod.mk.injEq] at h
    obtain ⟨rfl, rfl, rfl⟩ := h
    exact .inr ⟨rest, hrest, rfl⟩

theorem runAll_nil_eq_ok {records : List Record} :
    runAll s [] = .ok (s', records) ↔ s' = s ∧ records = [] := by
  simp only [runAll, Except.pure_eq_ok, Prod.mk.injEq]
  constructor <;> rintro ⟨rfl, rfl⟩ <;> exact ⟨rfl, rfl⟩

/-- A run runs its first command, then the rest from where it ended. -/
theorem runAll_cons_eq_ok {c : Command} {cs : List Command} {records : List Record}
    (h : runAll s (c :: cs) = .ok (s', records)) :
    ∃ s1 record rest, runCommand s c = .ok (s1, record) ∧ runAll s1 cs = .ok (s', rest) ∧
      records = record :: rest := by
  simp only [runAll, Except.bind_eq_ok] at h
  obtain ⟨⟨s1, record⟩, hc, ⟨s2, rest⟩, hrest, h⟩ := h
  simp only [Except.pure_eq_ok, Prod.mk.injEq] at h
  obtain ⟨rfl, rfl⟩ := h
  exact ⟨s1, record, rest, hc, hrest, rfl⟩

end Inversion

/-! ### Agreement along a run -/

mutual

/-- A command run through the session from a station whose flags agree ends in one whose flags
agree, and so do all the snapshots it records. -/
theorem runCommand_agrees : ∀ (cmd : Command) {outside : Bool} {s s' : Station}
    {r : Record}, cmd.throughSession = true → s.snapshot.Agrees outside → runCommand s cmd = .ok (s', r) →
    s'.snapshot.Agrees outside ∧ r.Agrees outside
  | .step op st, outside, s, s', r, hcmd, hs, h => by
    obtain ⟨res, hperf, rfl⟩ := runCommand_step_eq_ok.1 h
    have hs1 := perform_keepsAgreement (by simpa [Command.throughSession] using hcmd) hperf hs
    exact ⟨hs1, .intro hs1 (by simp)⟩
  | .withMastership body, outside, s, s', r, hcmd, hs, h => by
    simp only [Command.throughSession] at hcmd
    obtain ⟨e, -, rfl, rfl⟩ | ⟨s1, s2, records, res, hr, hbody, rfl, rfl⟩ :=
      runCommand_withMastership_eq_ok h
    · exact ⟨hs, .intro hs (by simp)⟩
    · have hheld := enterMastership_ok (show (enterMastership s).2 = .ok () by rw [hr])
      rw [hr] at hheld
      dsimp only at hheld
      -- the body runs inside the scope, with both sides holding mastership
      have hs1 : s1.snapshot.Agrees false :=
        ⟨by simp [Snapshot.Synced, hheld.1, hheld.2], nofun⟩
      obtain ⟨-, hrecords⟩ := runBody_agrees body hcmd hs1 hbody
      have hs3 := (exitMastership_released (s := s2) res).agrees outside
      refine ⟨hs3, .intro hs3 ?_⟩
      rintro _ ⟨⟩ x hx
      simpa using hrecords x hx
  | .withLogon handle body, outside, s, s', r, hcmd, hs, h => by
    simp only [Command.throughSession] at hcmd
    obtain ⟨e, -, rfl, rfl⟩ | ⟨s1, s2, records, res, hr, hbody, rfl, rfl⟩ :=
      runCommand_withLogon_eq_ok h
    · exact ⟨hs, .intro hs (by simp)⟩
    · have hs1 := logon_released hs.1 (show (logon handle s).2 = .ok () by rw [hr])
      rw [hr] at hs1
      obtain ⟨hs2, hrecords⟩ := runBody_agrees body hcmd (hs1.agrees outside) hbody
      have hs3 := (logoff_released hs2.1).agrees outside
      refine ⟨hs3, .intro hs3 ?_⟩
      rintro _ ⟨⟩ x hx
      simpa using hrecords x hx

/-- A body run through the session from a station whose flags agree ends in one whose flags
agree, and so do all the snapshots its commands record. -/
theorem runBody_agrees : ∀ (cmds : List Command) {outside : Bool} {s s' : Station}
    {records : List Record} {res : Except Error Unit}, Command.allThroughSession cmds = true →
    s.snapshot.Agrees outside → runBody s cmds = .ok (s', records, res) →
    s'.snapshot.Agrees outside ∧ ∀ r ∈ records, r.Agrees outside
  | [], outside, s, s', records, res, _, hs, h => by
    obtain ⟨rfl, rfl, -⟩ := runBody_nil_eq_ok.1 h
    exact ⟨hs, by simp⟩
  | c :: cs, outside, s, s', records, res, hcmds, hs, h => by
    simp only [Command.allThroughSession, Bool.and_eq_true] at hcmds
    obtain ⟨s1, record, hc, hrest⟩ := runBody_cons_eq_ok h
    obtain ⟨hs1, hrecord⟩ := runCommand_agrees c hcmds.1 hs hc
    obtain ⟨e, -, rfl, rfl, -⟩ | ⟨rest, hrest, rfl⟩ := hrest
    · exact ⟨hs1, by simpa using hrecord⟩
    · obtain ⟨hs2, hrest⟩ := runBody_agrees cs hcmds.2 hs1 hrest
      exact ⟨hs2, by simpa [hrecord] using hrest⟩

end

/-- Commands run at the top, one after another, from a station where neither side holds
mastership, end in one where neither does, and every snapshot they record agrees, outside
mastership scopes with neither side holding it. -/
theorem runAll_released : ∀ (cmds : List Command) {s s' : Station} {records : List Record},
    Command.allThroughSession cmds = true → s.snapshot.Released →
    runAll s cmds = .ok (s', records) → s'.snapshot.Released ∧ ∀ r ∈ records, r.Agrees true
  | [], s, s', records, _, hs, h => by
    obtain ⟨rfl, rfl⟩ := runAll_nil_eq_ok.1 h
    exact ⟨hs, by simp⟩
  | c :: cs, s, s', records, hcmds, hs, h => by
    simp only [Command.allThroughSession, Bool.and_eq_true] at hcmds
    obtain ⟨s1, record, rest, hc, hrest, rfl⟩ := runAll_cons_eq_ok h
    obtain ⟨hs1, hrecord⟩ := runCommand_agrees c hcmds.1 (hs.agrees true) hc
    obtain ⟨hs2, hrest⟩ := runAll_released cs hcmds.2 (hs1.2 rfl) hrest
    exact ⟨hs2, by simpa [hrecord] using hrest⟩

/-! ## The answer of a mastership scope -/

theorem releaseMastership_snd (c : SimController) :
    c.releaseMastership.2 =
      if c.failNextRelease then .error (.protocol "mastership release timed out") else .ok () := by
  unfold SimController.releaseMastership
  split <;> rfl

/-- A mastership scope that took mastership ends `LoggedOn` with mastership given back; its
answer is the body's error if the body failed, else the release's error if giving mastership
back failed, else the body's value. -/
theorem withMastership_answer {α : Type} (body : Action α) (s : Station)
    (hentry : (enterMastership s).2 = .ok ()) :
    let inside := body (enterMastership s).1
    (withMastership body s).1.session.state = .loggedOn ∧
      (withMastership body s).1.controller.mastership = false ∧
      (withMastership body s).2 =
        match inside.2 with
        | .error e => .error e
        | .ok v =>
          if inside.1.controller.failNextRelease then
            .error (.protocol "mastership release timed out")
          else .ok v := by
  intro inside
  rw [withMastership_eq]
  rcases hr : enterMastership s with ⟨s1, e | ⟨⟨⟩⟩⟩
  · rw [hr] at hentry
    cases hentry
  · simp only [inside, hr]
    rcases body s1 with ⟨s2, r⟩
    simp only [exitMastership_eq, releaseMastership_snd, releaseMastership_mastership, true_and]
    cases r with
    | error e => rfl
    | ok v => by_cases hfail : s2.controller.failNextRelease = true <;> simp [hfail]

/-- A mastership scope entered anywhere but `LoggedOn` (in particular inside another one) is
refused, and changes nothing. -/
theorem withMastership_refused {α : Type} (body : Action α) {s : Station}
    (hs : s.session.state ≠ .loggedOn) :
    withMastership body s =
      (s, .error (.invalidSessionState "acquire mastership" "LoggedOn" s.session.state.name)) := by
  rw [withMastership_eq, enterMastership_eq, if_neg hs]

/-! ## Changes need mastership -/

/-- Unless the session holds mastership, `x` is refused and changes nothing. -/
def RefusedUnlessHeld {α : Type} (x : Action α) : Prop :=
  ∀ s, s.session.state ≠ .mastershipHeld → (x s).1 = s ∧ ∃ e, (x s).2 = .error e

namespace RefusedUnlessHeld

variable {α β : Type}

theorem require (operation : String) : RefusedUnlessHeld (require operation .mastershipHeld) := by
  intro s hs
  have hrefused : Station.require operation .mastershipHeld s = (s, .error (.invalidSessionState
      operation SessionState.mastershipHeld.name s.session.state.name)) := by
    simp [Station.require, hs]
  rw [hrefused]
  exact ⟨rfl, _, rfl⟩

/-- A refused first step refuses the whole. -/
theorem bind_left {x : Action α} {f : α → Action β} (hx : RefusedUnlessHeld x) :
    RefusedUnlessHeld (x >>= f) := by
  intro s hs
  obtain ⟨hst, e, he⟩ := hx s hs
  rw [bind_apply]
  rcases hrun : x s with ⟨s', _ | a⟩
  · rw [hrun] at hst
    exact ⟨hst, _, rfl⟩
  · rw [hrun] at he
    cases he

/-- After a step that leaves the station as it is, a refused rest refuses the whole. -/
theorem bind_right {x : Action α} {f : α → Action β} (hx : Keeps (· = ·) x)
    (hf : ∀ a, RefusedUnlessHeld (f a)) : RefusedUnlessHeld (x >>= f) := by
  intro s hs
  have hxs : s = (x s).1 := hx s
  rw [bind_apply]
  rcases hrun : x s with ⟨s', _ | a⟩ <;> rw [hrun] at hxs <;> obtain rfl : s = s' := hxs
  · exact ⟨rfl, _, rfl⟩
  · exact hf a s hs

theorem transfer (operation path : String) : RefusedUnlessHeld (transfer operation path) :=
  bind_right (Keeps.requireLocalFile _) fun _ => bind_left (require _)

theorem uploadModule (path : String) (mode : LoadMode) :
    RefusedUnlessHeld (uploadModule path mode) :=
  bind_left (transfer _ _)

theorem uploadProgram (path : String) : RefusedUnlessHeld (uploadProgram path) :=
  bind_left (transfer _ _)

theorem startExecution : RefusedUnlessHeld startExecution :=
  bind_left (require _)

theorem writeNamedValue (module name : String) (value : DataValue) :
    RefusedUnlessHeld (writeNamedValue module name value) :=
  bind_left (require _)

theorem writeNamedText (module name text : String) :
    RefusedUnlessHeld (writeNamedText module name text) :=
  bind_right (Keeps.result _) fun _ => writeNamedValue _ _ _

theorem setProgramPointer (module : String) (row : Nat) :
    RefusedUnlessHeld (setProgramPointer module row) :=
  bind_left (require _)

end RefusedUnlessHeld

/-- The controller of the station would grant one of the changes that need mastership: a load,
a data write, moving the program pointer, or a start. -/
def GrantsChange (s : Station) : Prop :=
  (∃ remote mode, (s.controller.loadModule remote mode).2 = .ok ()) ∨
  (∃ remote mode, (s.controller.loadProgram remote mode).2 = .ok ()) ∨
  (∃ module name value c, s.controller.setData module name value = .ok c) ∨
  (∃ module row c, s.controller.setProgramPointer module row = .ok c) ∨
  (∃ c, s.controller.resetProgramPointer = .ok c) ∨
  (∃ c, s.controller.start = .ok c)

/-- The controller grants those changes only with mastership, so against a synced session only
while it is `MastershipHeld`. -/
theorem GrantsChange.held {s : Station} (hs : s.snapshot.Synced) (h : GrantsChange s) :
    s.session.state = .mastershipHeld := by
  apply hs.1
  rcases h with ⟨_, _, h⟩ | ⟨_, _, h⟩ | ⟨_, _, _, _, h⟩ | ⟨_, _, _, h⟩ | ⟨_, h⟩ | ⟨_, h⟩
  · exact SimController.loadModule_eq_ok h
  · exact SimController.loadProgram_eq_ok h
  · exact (SimController.setData_eq_ok h).1
  · exact (SimController.setProgramPointer_eq_ok h).1
  · exact (SimController.resetProgramPointer_eq_ok h).1
  · exact (SimController.start_eq_ok h).1

/-! ## Mastership over a whole run -/

/-- Over every run through the session that starts with neither side holding mastership, the
controller holds mastership exactly when the session is `MastershipHeld` after every command at
every depth, and neither holds it outside mastership scopes. A mastership scope that takes
mastership ends `LoggedOn`, answering the body's error, else the release error, else the body's
value; one entered anywhere but `LoggedOn` is refused and changes nothing. Every operation of
the session that changes the controller is refused and changes nothing unless the session is
`MastershipHeld`, and the controller grants such a change to a synced session only then. -/
theorem mastership_agrees :
    (∀ (cmds : List Command) (s s' : Station) (records : List Record),
      Command.allThroughSession cmds = true → s.snapshot.Released →
      runAll s cmds = .ok (s', records) →
      s'.snapshot.Released ∧ ∀ r ∈ records, r.Agrees true) ∧
    (∀ (α : Type) (body : Action α) (s : Station), (enterMastership s).2 = .ok () →
      let inside := body (enterMastership s).1
      (withMastership body s).1.session.state = .loggedOn ∧
        (withMastership body s).1.controller.mastership = false ∧
        (withMastership body s).2 =
          match inside.2 with
          | .error e => .error e
          | .ok v =>
            if inside.1.controller.failNextRelease then
              .error (.protocol "mastership release timed out")
            else .ok v) ∧
    (∀ (α : Type) (body : Action α) (s : Station), s.session.state ≠ .loggedOn →
      withMastership body s =
        (s, .error (.invalidSessionState "acquire mastership" "LoggedOn" s.session.state.name))) ∧
    (∀ (operation path module name text : String) (mode : LoadMode) (value : DataValue)
      (row : Nat),
      RefusedUnlessHeld (transfer operation path) ∧
      RefusedUnlessHeld (uploadModule path mode) ∧ RefusedUnlessHeld (uploadProgram path) ∧
      RefusedUnlessHeld startExecution ∧ RefusedUnlessHeld (writeNamedValue module name value) ∧
      RefusedUnlessHeld (writeNamedText module name text) ∧
      RefusedUnlessHeld (setProgramPointer module row)) ∧
    (∀ s : Station, s.snapshot.Synced → GrantsChange s → s.session.state = .mastershipHeld) :=
  ⟨fun cmds _ _ _ => runAll_released cmds,
   fun _ body s hentry => withMastership_answer body s hentry,
   fun _ body _ hs => withMastership_refused body hs,
   fun _ _ _ _ _ _ _ _ =>
     ⟨.transfer _ _, .uploadModule _ _, .uploadProgram _, .startExecution,
      .writeNamedValue _ _ _, .writeNamedText _ _ _, .setProgramPointer _ _⟩,
   fun _ hs h => h.held hs⟩

/-- A run with a pending release failure, a logon scope, and a mastership scope that another is
nested in: the nested one is refused, the outer one gives mastership back and the run ends
with neither side holding it. -/
theorem mastership_agrees_nested_scopes :
    let cmds : List Command :=
      [.step "fail release" .failNextRelease,
       .withLogon {} [.withMastership [.withMastership [.step "start" .startExecution]],
                      .step "state" .state]]
    Command.allThroughSession cmds = true ∧ ({} : Station).snapshot.Released ∧
      ∃ s' records, runAll {} cmds = .ok (s', records) ∧
        s'.snapshot.Released ∧ ∀ r ∈ records, r.Agrees true := by
  intro cmds
  have hcmds : Command.allThroughSession cmds = true := by decide
  have hs : ({} : Station).snapshot.Released := ⟨rfl, by decide⟩
  obtain ⟨s', records, hrun⟩ : ∃ s' records, runAll {} cmds = .ok (s', records) := ⟨_, _, rfl⟩
  exact ⟨hcmds, hs, s', records, hrun, mastership_agrees.1 cmds {} s' records hcmds hs hrun⟩

end Station

end RobotProgram
