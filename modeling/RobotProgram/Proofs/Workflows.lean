import Mathlib
import RobotProgram.Proofs.Connection
import RobotProgram.Proofs.Validation
/-!
# RobotProgram.Proofs.Workflows

The deploy workflows (sending a program or a target, moving the program pointer, reading
targets, program data or the position) each run in a logon scope of their own. This module shows
that they clean up after themselves.

* `Station.Consistent`: the session is tracked (`Station.Tracked`) and the two mastership flags
  agree. Every run through the session keeps it (`runAll_consistent`).
* `Station.Settled`: the session is `Disconnected` and names no controller, and the controller
  has no client and no mastership. A consistent `Disconnected` station is settled.
* A logon scope started on a settled station ends settled, whatever its body answers, as long as
  the body keeps the station consistent (`withLogon_settles`). So do the workflows, and the logon
  scopes of a run whatever their bodies hold (`runCommand_withLogon_settles`).
* The read workflows take no mastership (`runStep_read_sameGrants`), and on a consistent station
  they change nothing at all (`runStep_read_restores`).
* A workflow that fails with a validation error leaves a consistent station as it was
  (`runStep_validationChangesNothing`), unless it sends a program with a path that names no
  file, such as `.`: that is found only once mastership was taken
  (`sendProgram_nameless_path_after_grant`).

Main statement: `workflows_clean_up`.
-/

namespace RobotProgram

/-- The local paths the step transfers name files: their last component is neither missing
nor `..`. -/
def Step.transfersNamedFiles : Step → Bool
  | .sendProgram files _ => (fileName? files.program).isSome && (fileName? files.module).isSome
  | _ => true

/-- The command opens a logon scope of its own: a deploy workflow, or a logon scope around
commands that go through the session. -/
def Command.opensLogonScope : Command → Bool
  | .step _ st => st.isWorkflow
  | .withLogon _ body => Command.allThroughSession body
  | .withMastership _ => false

namespace Station

open RobotProgram.Action

/-! ## Consistent and settled stations -/

/-- The session is tracked and the two mastership flags agree. -/
def Consistent (s : Station) : Prop :=
  s.Tracked ∧ s.snapshot.Synced

/-- No session: `Disconnected`, naming no controller, and a controller with no client logged on
and no mastership given out. -/
def Settled (s : Station) : Prop :=
  s.session.state = .disconnected ∧ s.session.handle = none ∧
    s.controller.loggedOn = false ∧ s.controller.mastership = false

variable {α : Type} {s : Station}

theorem settled_iff : s.Settled ↔ s.session.state = .disconnected ∧ s.Consistent := by
  constructor
  · rintro ⟨hd, hh, hl, hm⟩
    exact ⟨hd, ⟨by rw [hh, hl]; rfl, fun _ => hh⟩, by simp [Snapshot.Synced, hm, hd]⟩
  · rintro ⟨hd, ⟨hlink, hnone⟩, hsync⟩
    have hh := hnone hd
    refine ⟨hd, hh, ?_, by simpa [Snapshot.Synced, hd] using hsync⟩
    rw [← hlink, hh]
    rfl

/-- Logging off a consistent station settles it. -/
theorem logoff_settles (hs : s.Consistent) : (logoff s).1.Settled := by
  rw [logoff_eq]
  split
  · next hd => exact settled_iff.2 ⟨hd, hs⟩
  · exact ⟨rfl, rfl, rfl, rfl⟩

/-- What keeps the session tracked and the flags in agreement inside a mastership scope keeps
the station consistent. -/
theorem keepsConsistent {x : Action α} (ht : Keeps (Preserving Tracked) x)
    (ha : KeepsAgreement false x) : Keeps (Preserving Consistent) x :=
  fun s hs => ⟨ht s hs.1, (ha s ⟨hs.2, (absurd · Bool.false_ne_true)⟩).1⟩

theorem SameLink.consistent {x : Action α} (hx : Keeps SameLink x) :
    Keeps (Preserving Consistent) x :=
  keepsConsistent (Keeps.mono (fun _ _ h => h.tracked) hx) (SameLink.keeps hx)

theorem logon_consistent (handle : ControllerHandle) :
    Keeps (Preserving Consistent) (logon handle) :=
  keepsConsistent (logon_tracked handle) (logon_keepsAgreement handle)

theorem withMastership_consistent {body : Action α} (hbody : Keeps SameLink body) :
    Keeps (Preserving Consistent) (withMastership body) :=
  keepsConsistent (withMastership_tracked (Keeps.mono (fun _ _ h => h.tracked) hbody))
    (withMastership_keepsAgreement body)

/-- A command run through the session keeps the station consistent: it keeps the session
tracked, and the two flags agree after it as they did before. -/
theorem runCommand_consistent (cmd : Command) {s s' : Station} {r : Record}
    (hcmd : cmd.throughSession = true) (hs : s.Consistent) (h : runCommand s cmd = .ok (s', r)) :
    s'.Consistent :=
  ⟨runCommand_tracked cmd hcmd hs.1 h,
    (runCommand_agrees cmd hcmd
      (show s.snapshot.Agrees false from ⟨hs.2, (absurd · Bool.false_ne_true)⟩) h).1.1⟩

/-- Every run through the session keeps the station consistent. -/
theorem runAll_consistent (cmds : List Command) {s s' : Station} {records : List Record}
    (hcmds : Command.allThroughSession cmds = true) (hs : s.Consistent)
    (h : runAll s cmds = .ok (s', records)) : s'.Consistent :=
  runAll_keeps (Q := fun c => c.throughSession = true)
    (fun c _ _ _ hc hs h => runCommand_consistent c hc hs h) cmds
    ((Command.allThroughSession_iff cmds).1 hcmds) hs h

/-! ## Logon scopes settle -/

/-- A logon scope started on a settled station ends settled whatever it answers, if its body
keeps the station consistent: a failed logon changes nothing, and the logoff at the end settles
a consistent station. -/
theorem withLogon_settles (handle : ControllerHandle) {body : Action α}
    (hbody : Keeps (Preserving Consistent) body) :
    Keeps (Preserving Settled) (withLogon handle body) := by
  intro s hs
  rw [withLogon_eq]
  have hs1 := logon_consistent handle s (settled_iff.1 hs).2
  obtain ⟨e, hr⟩ | ⟨s1, hr⟩ := logon_cases handle s <;> rw [hr] at hs1 ⊢
  · exact hs
  · exact logoff_settles (hbody s1 hs1)

/-- Every workflow started on a settled station ends settled, whatever it answers. -/
theorem runStep_workflow_settles (st : Step) (hst : st.isWorkflow = true) :
    Keeps (Preserving Settled) (runStep st) :=
  runStep_workflow_keeps (fun handle _ hbody => withLogon_settles handle (SameLink.consistent hbody))
    (fun handle _ hbody => withLogon_settles handle (withMastership_consistent hbody)) st hst

/-- A logon scope of a run, started on a settled station, ends settled, whatever its body holds:
logoffs, logons, mastership scopes and workflows at any depth. -/
theorem runCommand_withLogon_settles (handle : ControllerHandle) (body : List Command)
    {s s' : Station} {r : Record} (hbody : Command.allThroughSession body = true)
    (hs : s.Settled) (h : runCommand s (.withLogon handle body) = .ok (s', r)) : s'.Settled := by
  obtain ⟨e, -, rfl, -⟩ | ⟨s1, s2, records, res, hr, hrun, rfl, -⟩ :=
    runCommand_withLogon_eq_ok h
  · exact hs
  · have hs1 := logon_consistent handle s (settled_iff.1 hs).2
    rw [hr] at hs1
    -- the body runs outside every mastership scope of its own, and keeps the station consistent
    have hs2 : s2.Consistent :=
      ⟨runBody_tracked body hbody hs1.1 hrun,
        (runBody_agrees body hbody
          (show s1.snapshot.Agrees false from ⟨hs1.2, (absurd · Bool.false_ne_true)⟩) hrun).1.1⟩
    exact logoff_settles hs2

/-! ## The read workflows -/

/-- `t` has the count of mastership grants of `s`. -/
def SameGrants (s t : Station) : Prop :=
  t.controller.mastershipGrants = s.controller.mastershipGrants

instance : IsPreorder Station SameGrants where
  refl _ := rfl
  trans _ _ _ h₁ h₂ := h₂.trans h₁

theorem SameLink.sameGrants {x : Action α} (hx : Keeps SameLink x) : Keeps SameGrants x :=
  Keeps.mono (fun _ _ h => h.2.2.2) hx

theorem logon_sameGrants (handle : ControllerHandle) : Keeps SameGrants (logon handle) := by
  intro s
  rw [logon_eq]
  split
  · split
    · next c hc =>
      rw [SimController.logon_eq_ok hc]
      rfl
    · rfl
  · rfl

theorem logoff_sameGrants : Keeps SameGrants logoff := by
  intro s
  rw [logoff_eq]
  split
  · rfl
  · show (if _ then _ else _ : SimController).mastershipGrants = _
    split
    · unfold SimController.releaseMastership
      split <;> rfl
    · rfl

/-- A logon scope takes no mastership of its own. -/
theorem withLogon_sameGrants (handle : ControllerHandle) {body : Action α}
    (hbody : Keeps SameGrants body) : Keeps SameGrants (withLogon handle body) :=
  Keeps.bind (logon_sameGrants handle) fun _ => Keeps.bind (Keeps.attempt hbody) fun _ =>
    Keeps.bind logoff_sameGrants fun _ => Keeps.result _

/-- The read workflows never take mastership, wherever they start and whatever they answer. -/
theorem runStep_read_sameGrants (st : Step) (hst : st.isReadWorkflow = true) :
    Keeps SameGrants (runStep st) :=
  runStep_read_keeps (fun handle _ hbody => withLogon_sameGrants handle (SameLink.sameGrants hbody))
    st hst

/-- `t` is `s` again, if `s` was consistent. -/
def Restores (s t : Station) : Prop :=
  s.Consistent → t = s

instance : IsPreorder Station Restores where
  refl _ _ := rfl
  trans _ _ _ h₁ h₂ hs := by
    have ht := h₁ hs
    subst ht
    exact h₂ hs

/-- A logon scope around a body that only reads restores a consistent station: a refused logon
changes nothing, and the logoff after a logon undoes it. -/
theorem withLogon_restores (handle : ControllerHandle) {body : Action α}
    (hbody : Keeps (· = ·) body) : Keeps Restores (withLogon handle body) := by
  intro s hs
  by_cases hd : s.session.state = .disconnected
  · obtain ⟨-, hh, hl, hm⟩ := settled_iff.2 ⟨hd, hs⟩
    rw [withLogon_eq]
    obtain ⟨e, hr⟩ | ⟨s1, hr⟩ := logon_cases handle s
    · rw [hr]
    · -- the logon only marked the client and named the controller, and the logoff clears both
      have hs1 : s1 = { s with
          controller := { s.controller with loggedOn := true },
          session := { s.session with state := .loggedOn, handle := some handle } } := by
        rw [logon_eq, if_pos hd] at hr
        split at hr
        · next c hc =>
          rw [SimController.logon_eq_ok hc] at hr
          exact (congrArg Prod.fst hr).symm
        · cases hr
      rw [hr]
      show (logoff (body s1).1).1 = s
      rw [← hbody s1, logoff_eq, hs1]
      obtain ⟨files, c, ⟨user, task, state, handle'⟩, trackers⟩ := s
      cases c
      simp_all [SimController.logoff]
  · exact withLogon_of_connected handle body hd

/-- The read workflows leave a consistent station exactly as they found it. -/
theorem runStep_read_restores (st : Step) (hst : st.isReadWorkflow = true) :
    Keeps Restores (runStep st) := by
  cases st <;> cases hst
  case readTargetData | readProgramData =>
    exact Keeps.map _ (withLogon_restores _ (Keeps.bind (Keeps.searchData _) fun _ =>
      Keeps.result _))
  case currentPositionOn =>
    exact Keeps.bind (withLogon_restores _ Keeps.currentPosition) fun ⟨_, _⟩ => Keeps.pure _

/-! ## Validation errors -/

theorem requireLocalFile_fst (path : String) (s : Station) : (requireLocalFile path s).1 = s :=
  (Keeps.requireLocalFile (R := (· = ·)) path s).symm

theorem metadata_of_requireLocalFile {path : String} {u : Unit}
    (h : (requireLocalFile path s).2 = .ok u) : s.files.metadata path = .ok () := by
  unfold requireLocalFile at h
  split at h
  · next hm => exact hm
  · cases h
  · cases h

/-- A workflow that fails with a validation error leaves a consistent station as it was, if the
paths it transfers name files: the local checks come first, the scopes that change the
controller fail with no validation error, and the read workflows change nothing anyway. -/
theorem runStep_validationChangesNothing (st : Step) (hst : st.isWorkflow = true)
    (hnamed : st.transfersNamedFiles = true) (hs : s.Consistent) :
    ValidationChangesNothing (runStep st) s := by
  have answered {β : Type} {x : Action β} (hx : ValidationChangesNothing x s) :
      ValidationChangesNothing (do let _ ← x; pure Reply.none) s :=
    hx.answer fun _ _ => ⟨_, rfl⟩
  cases st <;> cases hst
  case sendProgram files handle =>
    have hnames : (fileName? files.program).isSome = true ∧
        (fileName? files.module).isSome = true := by
      simpa [Step.transfersNamedFiles] using hnamed
    exact answered <| .check (requireLocalFile_fst _ s) fun _ hprogram =>
      .check (requireLocalFile_fst _ s) fun _ hmodule =>
        .of_validationFree (sendProgram_scope_validationFree handle files
          (metadata_of_requireLocalFile hprogram) (metadata_of_requireLocalFile hmodule)
          hnames s rfl)
  case sendTarget module name text handle =>
    exact answered <| .check rfl fun pose _ =>
      .of_validationFree (sendTarget_scope_validationFree handle module name pose s rfl)
  case setPointer module row handle =>
    exact answered (.of_validationFree (setPointer_validationFree handle module row s rfl))
  case readTargetData | readProgramData | currentPositionOn =>
    exact .of_unchanged (runStep_read_restores _ rfl s hs)

/-- A program path that names no file, such as `.`, passes the local check, since it exists; the
transfer refuses it only once mastership was taken. Sending the program fails with a validation
error, and the controller has given out a grant. -/
theorem sendProgram_nameless_path_after_grant :
    let s : Station :=
      { files := { entries := [(["x.mod"], .file "MODULE X\nENDMODULE\n".toUTF8)] } }
    let sent := sendProgram {} ⟨".", "x.mod"⟩ s
    s.Settled ∧ s.controller.mastershipGrants = 0 ∧ sent.2 = .error (.fileNotFound ".") ∧
      (Error.fileNotFound ".").kind = .validation ∧ sent.1.controller.mastershipGrants = 1 := by
  intro s sent
  -- one run, evaluated once
  have hsent : (sent.2, sent.1.controller.mastershipGrants) = (.error (.fileNotFound "."), 1) := by
    simp only [sent, s]
    cbv
  simp only [Prod.mk.injEq] at hsent
  exact ⟨⟨rfl, rfl, rfl, rfl⟩, rfl, hsent.1, rfl, hsent.2⟩

/-! ## The deploy workflows -/

/-- The bench runs a workflow as the library does. -/
theorem perform_workflow {st : Step} (hst : st.isWorkflow = true) (s : Station) :
    perform st s = .ok (runStep st s) := by
  cases st <;> cases hst <;> rfl

/-- A workflow run as a command ends where the workflow ends, and records its answer. -/
theorem runCommand_workflow {op : String} {st : Step} (hst : st.isWorkflow = true)
    {s s' : Station} {r : Record} (h : runCommand s (.step op st) = .ok (s', r)) :
    (runStep st s).1 = s' ∧ (runStep st s).2 = r.result := by
  obtain ⟨res, hperf, rfl⟩ := runCommand_step_eq_ok.1 h
  rw [perform_workflow hst, Except.ok.injEq] at hperf
  rw [hperf]
  exact ⟨rfl, rfl⟩

/-- The deploy workflows, and the logon scopes of a run, clean up after themselves. Started on a
settled station (a `Disconnected` session that a run reached: `runAll_consistent`), each ends
settled whatever it answers, whatever the body of a logon scope holds. A read workflow gives out
no mastership. A workflow whose transfers name files and that fails with a validation error
leaves a consistent station as it was. -/
theorem workflows_clean_up (cmd : Command) (hcmd : cmd.opensLogonScope = true) {s s' : Station}
    {r : Record} (h : runCommand s cmd = .ok (s', r)) :
    (s.Settled → s'.Settled) ∧
    (∀ op st, cmd = .step op st → st.isReadWorkflow = true →
      s'.controller.mastershipGrants = s.controller.mastershipGrants) ∧
    (∀ op st, cmd = .step op st → st.transfersNamedFiles = true → s.Consistent →
      ∀ e, r.result = .error e → e.kind = .validation → s' = s) := by
  cases cmd with
  | step op st =>
    obtain ⟨hstation, hresult⟩ := runCommand_workflow hcmd h
    subst hstation
    refine ⟨fun hs => runStep_workflow_settles st hcmd s hs, ?_, ?_⟩
    · rintro _ _ ⟨⟩ hread
      exact runStep_read_sameGrants st hread s
    · rintro _ _ ⟨⟩ hnamed hs e he hv
      exact runStep_validationChangesNothing st hcmd hnamed hs e (hresult.trans he) hv
  | withMastership body => cases hcmd
  | withLogon handle body =>
    exact ⟨fun hs => runCommand_withLogon_settles handle body hcmd hs h,
      fun _ _ heq => (nomatch heq), fun _ _ heq => (nomatch heq)⟩

/-- Moving the program pointer from the initial station ends settled. -/
theorem workflows_clean_up_set_pointer :
    let cmd : Command := .step "set_pointer" (.setPointer "MainModule" 3 {})
    cmd.opensLogonScope = true ∧ ({} : Station).Settled ∧
      ∃ s' r, runCommand {} cmd = .ok (s', r) ∧ s'.Settled := by
  intro cmd
  have hcmd : cmd.opensLogonScope = true := rfl
  have hs : ({} : Station).Settled := ⟨rfl, rfl, rfl, rfl⟩
  obtain ⟨s', r, h⟩ : ∃ s' r, runCommand {} cmd = .ok (s', r) := ⟨_, _, rfl⟩
  exact ⟨hcmd, hs, s', r, h, (workflows_clean_up cmd hcmd h).1 hs⟩

end Station

end RobotProgram
