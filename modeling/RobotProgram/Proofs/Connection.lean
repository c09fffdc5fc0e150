import RobotProgram.Proofs.Mastership
/-!
# RobotProgram.Proofs.Connection

The session keeps its own view of the connection: the state it is in and the controller it names
(its handle). The controller only knows whether a client is logged on. This module compares the
two over runs through the session.

* `Station.Tracked`: the session names a controller exactly when the controller has a client
  logged on, and a `Disconnected` session names none. Logging on and off keep it, and so does
  every other step and every scope at every depth (`runCommand_tracked`).
* `Station.Orphaned`: the session is logged on, or holds mastership, but names no controller.
  Where the session is tracked, this is exactly where its view and the controller disagree
  (`viewAgrees_iff`).
* A mastership scope puts the session back to `LoggedOn` whatever its body did, so a body that
  logs off leaves the session orphaned (`logoff_in_mastership_scope_orphans`). Nothing else
  does: after every run whose mastership scopes at the top hold no logoff, the view agrees with
  the controller (`runAll_viewAgrees`).
-/

namespace RobotProgram

/-! ## Logging off inside a mastership scope -/

mutual

/-- The command holds a logoff step, at some depth. -/
def Command.logsOff : Command → Bool
  | .step _ st => (st matches .logoff)
  | .withMastership body => Command.anyLogsOff body
  | .withLogon _ body => Command.anyLogsOff body

/-- One of the commands holds a logoff step, at some depth. -/
def Command.anyLogsOff : List Command → Bool
  | [] => false
  | c :: cs => c.logsOff || Command.anyLogsOff cs

end

theorem Command.allThroughSession_iff (cmds : List Command) :
    Command.allThroughSession cmds = true ↔ ∀ c ∈ cmds, c.throughSession = true := by
  induction cmds with
  | nil => simp [Command.allThroughSession]
  | cons c cs ih => simp [Command.allThroughSession, ih]

/-- The command is a mastership scope whose body holds a logoff step. -/
def Command.logsOffHeld : Command → Bool
  | .withMastership body => Command.anyLogsOff body
  | _ => false

namespace SimController

variable {c c' : SimController}

theorem requestMastership_loggedOn (h : c.requestMastership = .ok c') :
    c'.loggedOn = c.loggedOn := by
  simp [requestMastership, requireLoggedOn_eq_ok] at h
  obtain ⟨-, -, rfl⟩ := h
  rfl

theorem releaseMastership_loggedOn (c : SimController) :
    c.releaseMastership.1.loggedOn = c.loggedOn := by
  unfold releaseMastership
  split <;> rfl

end SimController

namespace Station

open RobotProgram.Action

/-! ## The session's view -/

/-- The session names a controller exactly when the controller has a client logged on, and a
`Disconnected` session names none. -/
def Tracked (s : Station) : Prop :=
  s.session.handle.isSome = s.controller.loggedOn ∧
    (s.session.state = .disconnected → s.session.handle = none)

/-- The session's view agrees with the controller: it is `Disconnected` exactly when no client
is logged on, and it names a controller exactly when it is not `Disconnected`. -/
def ViewAgrees (s : Station) : Prop :=
  (s.session.state = .disconnected ↔ s.controller.loggedOn = false) ∧
    (s.session.handle.isSome = true ↔ s.session.state ≠ .disconnected)

/-- The session is logged on, or holds mastership, yet names no controller. -/
def Orphaned (s : Station) : Prop :=
  s.session.state ≠ .disconnected ∧ s.session.handle = none

variable {s t : Station}

/-- A tracked session disagrees with the controller exactly where it is orphaned. -/
theorem viewAgrees_iff (h : s.Tracked) : s.ViewAgrees ↔ ¬s.Orphaned := by
  obtain ⟨hlink, hnone⟩ := h
  unfold ViewAgrees Orphaned
  cases hh : s.session.handle <;> rw [hh] at hlink hnone <;>
    cases hst : s.session.state <;> simp_all

theorem SameLink.tracked (h : SameLink s t) (hs : s.Tracked) : t.Tracked := by
  obtain ⟨hsession, hlogged, -⟩ := h
  unfold Tracked
  rw [hsession, hlogged]
  exact hs

theorem SameLink.notOrphaned (h : SameLink s t) (hs : ¬s.Orphaned) : ¬t.Orphaned := by
  unfold Orphaned
  rw [h.1]
  exact hs

/-! ## Opening and closing scopes -/

theorem logon_tracked (handle : ControllerHandle) : Keeps (Preserving Tracked) (logon handle) := by
  intro s hs
  rw [logon_eq]
  split
  · split
    · next c hc =>
      rw [SimController.logon_eq_ok hc]
      exact ⟨rfl, nofun⟩
    · exact hs
  · exact hs

/-- A logon refused or failed leaves the session as it was; one that succeeds names the
controller. Either way it orphans no session. -/
theorem logon_notOrphaned (handle : ControllerHandle) :
    Keeps (Preserving fun s => ¬s.Orphaned) (logon handle) := by
  intro s hs
  rw [logon_eq]
  split
  · split
    · exact fun h => nomatch h.2
    · exact hs
  · exact hs

/-- Logging off leaves the session `Disconnected` with no controller, and the controller with no
client; a session that is `Disconnected` already is left as it was. -/
theorem logoff_tracked : Keeps (Preserving Tracked) logoff := by
  intro s hs
  rw [logoff_eq]
  split
  · exact hs
  · exact ⟨rfl, fun _ => rfl⟩

theorem logoff_not_orphaned (s : Station) : ¬(logoff s).1.Orphaned := by
  rw [logoff_eq]
  split
  · next hd => exact fun h => h.1 hd
  · exact fun h => h.1 rfl

theorem enterMastership_tracked : Keeps (Preserving Tracked) enterMastership := by
  intro s hs
  rw [enterMastership_eq]
  split
  · split
    · next c hc =>
      refine ⟨?_, nofun⟩
      rw [SimController.requestMastership_loggedOn hc]
      exact hs.1
    · exact hs
  · exact hs

theorem exitMastership_tracked {α : Type} (r : Except Error α) :
    Keeps (Preserving Tracked) (exitMastership r) := by
  intro s hs
  rw [exitMastership_eq]
  refine ⟨?_, nofun⟩
  rw [SimController.releaseMastership_loggedOn]
  exact hs.1

theorem withLogon_tracked {α : Type} (handle : ControllerHandle) {body : Action α}
    (hbody : Keeps (Preserving Tracked) body) : Keeps (Preserving Tracked) (withLogon handle body) :=
  Keeps.bind (logon_tracked handle) fun _ => Keeps.bind (Keeps.attempt hbody) fun _ =>
    Keeps.bind logoff_tracked fun _ => Keeps.result _

theorem withMastership_tracked {α : Type} {body : Action α}
    (hbody : Keeps (Preserving Tracked) body) : Keeps (Preserving Tracked) (withMastership body) :=
  Keeps.bind enterMastership_tracked fun _ => Keeps.bind (Keeps.attempt hbody) fun r =>
    exitMastership_tracked r

/-- A logon scope never orphans a session: it logs off at the end, whatever its body did. -/
theorem withLogon_notOrphaned {α : Type} (handle : ControllerHandle) (body : Action α) :
    Keeps (Preserving fun s => ¬s.Orphaned) (withLogon handle body) := by
  intro s hs
  rw [withLogon_eq]
  obtain ⟨e, hr⟩ | ⟨s1, hr⟩ := logon_cases handle s <;> rw [hr]
  · exact hs
  · exact logoff_not_orphaned _

/-- A logon refused to a connected session changes nothing, and neither does its scope. -/
theorem withLogon_of_connected {α : Type} (handle : ControllerHandle) (body : Action α)
    (hs : s.session.state ≠ .disconnected) : (withLogon handle body s).1 = s := by
  have hlogon : logon handle s =
      (s, .error (.invalidSessionState "logon" "Disconnected" s.session.state.name)) := by
    rw [logon_eq, if_neg hs]
  rw [withLogon_eq, hlogon]

/-! ## Steps -/

theorem runStep_tracked (st : Step) (hst : st.isRaw = false) :
    Keeps (Preserving Tracked) (runStep st) := by
  have linked {α : Type} {x : Action α} (hx : Keeps SameLink x) : Keeps (Preserving Tracked) x :=
    Keeps.mono (fun _ _ h => h.tracked) hx
  by_cases hoff : st = .logoff
  · subst hoff
    exact Keeps.bind logoff_tracked fun _ => Keeps.pure _
  · exact runStep_keeps SameLink.tracked logon_tracked
      (fun handle _ hbody => withLogon_tracked handle (linked hbody))
      (fun handle _ hbody => withLogon_tracked handle (withMastership_tracked (linked hbody)))
      st hst hoff

/-- No step through the session orphans a session: a logoff disconnects it, a logon names the
controller, and the workflows close their logon scopes. -/
theorem runStep_notOrphaned (st : Step) (hst : st.isRaw = false) :
    Keeps (Preserving fun s => ¬s.Orphaned) (runStep st) := by
  by_cases hoff : st = .logoff
  · subst hoff
    exact Keeps.bind (fun s _ => logoff_not_orphaned s) fun _ => Keeps.pure _
  · exact runStep_keeps SameLink.notOrphaned logon_notOrphaned
      (fun handle body _ => withLogon_notOrphaned handle body)
      (fun handle body _ => withLogon_notOrphaned handle (withMastership body)) st hst hoff

/-- Inside a mastership scope, every step but a logoff leaves the session as it is: a logon, and
the logon scopes the workflows open, are refused. -/
theorem runStep_session_of_held (st : Step) (hst : st.isRaw = false) (hoff : st ≠ .logoff)
    (hs : s.session.state = .mastershipHeld) : (runStep st s).1.session = s.session := by
  have held : ∀ {t : Station}, t.session = s.session → t.session.state ≠ .disconnected :=
    fun ht hd => nomatch hs.symm.trans ((congrArg Session.state ht).symm.trans hd)
  refine runStep_keeps (P := fun t => t.session = s.session) (fun h ht => h.1.trans ht)
    (fun handle t ht => ?_) (fun handle body _ t ht => ?_) (fun handle body _ t ht => ?_)
    st hst hoff s rfl
  · rw [logon_eq, if_neg (held ht)]
    exact ht
  · rw [withLogon_of_connected handle body (held ht)]
    exact ht
  · rw [withLogon_of_connected handle _ (held ht)]
    exact ht

/-! ## Commands -/

mutual

/-- A command run through the session keeps the session tracked, at every depth. -/
theorem runCommand_tracked : ∀ (cmd : Command) {s s' : Station} {r : Record},
    cmd.throughSession = true → s.Tracked → runCommand s cmd = .ok (s', r) → s'.Tracked
  | .step op st, s, s', r, hcmd, hs, h => by
    obtain ⟨res, hperf, -⟩ := runCommand_step_eq_ok.1 h
    have hst : st.isRaw = false := by simpa [Command.throughSession] using hcmd
    exact perform_keeps SameLink.tracked (runStep_tracked st hst) hperf hs
  | .withMastership body, s, s', r, hcmd, hs, h => by
    simp only [Command.throughSession] at hcmd
    obtain ⟨e, -, rfl, -⟩ | ⟨s1, s2, records, res, hr, hbody, rfl, -⟩ :=
      runCommand_withMastership_eq_ok h
    · exact hs
    · have hs1 := enterMastership_tracked s hs
      rw [hr] at hs1
      exact exitMastership_tracked res s2 (runBody_tracked body hcmd hs1 hbody)
  | .withLogon handle body, s, s', r, hcmd, hs, h => by
    simp only [Command.throughSession] at hcmd
    obtain ⟨e, -, rfl, -⟩ | ⟨s1, s2, records, res, hr, hbody, rfl, -⟩ :=
      runCommand_withLogon_eq_ok h
    · exact hs
    · have hs1 := logon_tracked handle s hs
      rw [hr] at hs1
      exact logoff_tracked s2 (runBody_tracked body hcmd hs1 hbody)

/-- A body run through the session keeps the session tracked. -/
theorem runBody_tracked : ∀ (cmds : List Command) {s s' : Station} {records : List Record}
    {res : Except Error Unit}, Command.allThroughSession cmds = true → s.Tracked →
    runBody s cmds = .ok (s', records, res) → s'.Tracked
  | [], s, s', records, res, _, hs, h => by
    obtain ⟨rfl, -, -⟩ := runBody_nil_eq_ok.1 h
    exact hs
  | c :: cs, s, s', records, res, hcmds, hs, h => by
    simp only [Command.allThroughSession, Bool.and_eq_true] at hcmds
    obtain ⟨s1, record, hc, hrest⟩ := runBody_cons_eq_ok h
    have hs1 := runCommand_tracked c hcmds.1 hs hc
    obtain ⟨e, -, rfl, -, -⟩ | ⟨rest, hrest, -⟩ := hrest
    · exact hs1
    · exact runBody_tracked cs hcmds.2 hs1 hrest

end

mutual

/-- Inside a mastership scope, a command that holds no logoff leaves the session as it is: the
scopes it opens are refused, and so is every logon. -/
theorem runCommand_session_of_held : ∀ (cmd : Command) {s s' : Station} {r : Record},
    cmd.throughSession = true → cmd.logsOff = false → s.session.state = .mastershipHeld →
    runCommand s cmd = .ok (s', r) → s'.session = s.session
  | .step op st, s, s', r, hcmd, hoff, hs, h => by
    obtain ⟨res, hperf, -⟩ := runCommand_step_eq_ok.1 h
    have hst : st.isRaw = false := by simpa [Command.throughSession] using hcmd
    have hnot : st ≠ .logoff := by
      rintro rfl
      simp [Command.logsOff] at hoff
    exact perform_keeps (P := fun t => t.session = s.session) (fun h ht => h.1.trans ht)
      (fun t ht => (runStep_session_of_held st hst hnot (ht ▸ hs)).trans ht) hperf rfl
  | .withMastership body, s, s', r, _, _, hs, h => by
    have hrefused : enterMastership s = (s, .error (.invalidSessionState "acquire mastership"
        "LoggedOn" s.session.state.name)) := by
      rw [enterMastership_eq, if_neg (by rw [hs]; nofun)]
    simp only [runCommand, hrefused, Except.pure_eq_ok, Prod.mk.injEq] at h
    rw [← h.1]
  | .withLogon handle body, s, s', r, _, _, hs, h => by
    have hrefused : logon handle s =
        (s, .error (.invalidSessionState "logon" "Disconnected" s.session.state.name)) := by
      rw [logon_eq, if_neg (by rw [hs]; nofun)]
    simp only [runCommand, hrefused, Except.pure_eq_ok, Prod.mk.injEq] at h
    rw [← h.1]

/-- Inside a mastership scope, a body that holds no logoff leaves the session as it is. -/
theorem runBody_session_of_held : ∀ (cmds : List Command) {s s' : Station}
    {records : List Record} {res : Except Error Unit}, Command.allThroughSession cmds = true →
    Command.anyLogsOff cmds = false → s.session.state = .mastershipHeld →
    runBody s cmds = .ok (s', records, res) → s'.session = s.session
  | [], s, s', records, res, _, _, _, h => by
    obtain ⟨rfl, -, -⟩ := runBody_nil_eq_ok.1 h
    rfl
  | c :: cs, s, s', records, res, hcmds, hoff, hs, h => by
    simp only [Command.allThroughSession, Bool.and_eq_true] at hcmds
    simp only [Command.anyLogsOff, Bool.or_eq_false_iff] at hoff
    obtain ⟨s1, record, hc, hrest⟩ := runBody_cons_eq_ok h
    have hs1 := runCommand_session_of_held c hcmds.1 hoff.1 hs hc
    obtain ⟨e, -, rfl, -, -⟩ | ⟨rest, hrest, -⟩ := hrest
    · exact hs1
    · rw [runBody_session_of_held cs hcmds.2 hoff.2 (hs1 ▸ hs) hrest, hs1]

end

/-- A command at the top keeps a tracked session unorphaned, unless it is a mastership scope
whose body holds a logoff. -/
theorem runCommand_notOrphaned (cmd : Command) {s s' : Station} {r : Record}
    (hcmd : cmd.throughSession = true) (hoff : cmd.logsOffHeld = false) (hs : ¬s.Orphaned)
    (h : runCommand s cmd = .ok (s', r)) : ¬s'.Orphaned := by
  cases cmd with
  | step op st =>
    obtain ⟨res, hperf, -⟩ := runCommand_step_eq_ok.1 h
    have hst : st.isRaw = false := by simpa [Command.throughSession] using hcmd
    exact perform_keeps (P := fun s => ¬s.Orphaned) SameLink.notOrphaned
      (runStep_notOrphaned st hst) hperf hs
  | withMastership body =>
    simp only [Command.throughSession] at hcmd
    simp only [Command.logsOffHeld] at hoff
    obtain ⟨e, -, rfl, -⟩ | ⟨s1, s2, records, res, hr, hbody, rfl, -⟩ :=
      runCommand_withMastership_eq_ok h
    · exact hs
    · -- the scope was entered from `LoggedOn`, so the session names a controller, and the body
      -- leaves the session as it found it
      have hentry : s.session.state = .loggedOn := by
        by_cases hl : s.session.state = .loggedOn
        · exact hl
        · rw [enterMastership_eq, if_neg hl] at hr
          cases hr
      have hs1 : s1.session = { s.session with state := .mastershipHeld } := by
        rw [enterMastership_eq, if_pos hentry] at hr
        split at hr
        · cases hr
          rfl
        · cases hr
      have hs2 := runBody_session_of_held body hcmd hoff (by rw [hs1]) hbody
      have hhandle : (exitMastership res s2).1.session.handle = s.session.handle := by
        simp only [exitMastership_eq, hs2, hs1]
      exact fun ho => hs ⟨by rw [hentry]; nofun, hhandle.symm.trans ho.2⟩
  | withLogon handle body =>
    obtain ⟨e, -, rfl, -⟩ | ⟨s1, s2, records, res, -, -, rfl, -⟩ := runCommand_withLogon_eq_ok h
    · exact hs
    · exact logoff_not_orphaned s2

/-! ## Runs -/

/-- What every command of a run keeps, the run keeps: each command starts where the one before
it ended. -/
theorem runAll_keeps {P : Station → Prop} {Q : Command → Prop}
    (hcmd : ∀ c {s s' : Station} {r : Record}, Q c → P s → runCommand s c = .ok (s', r) → P s') :
    ∀ (cmds : List Command) {s s' : Station} {records : List Record}, (∀ c ∈ cmds, Q c) →
      P s → runAll s cmds = .ok (s', records) → P s'
  | [], s, s', records, _, hs, h => by
    obtain ⟨rfl, -⟩ := runAll_nil_eq_ok.1 h
    exact hs
  | c :: cs, s, s', records, hcmds, hs, h => by
    obtain ⟨s1, record, rest, hc, hrest, -⟩ := runAll_cons_eq_ok h
    exact runAll_keeps hcmd cs (fun c hc => hcmds c (List.mem_cons_of_mem _ hc))
      (hcmd c (hcmds c List.mem_cons_self) hs hc) hrest

/-- A command at the top, unless it is a mastership scope whose body holds a logoff, keeps a
tracked session tracked and its view in agreement with the controller. -/
theorem runCommand_viewAgrees (cmd : Command) {s s' : Station} {r : Record}
    (hcmd : cmd.throughSession = true) (hoff : cmd.logsOffHeld = false) (ht : s.Tracked)
    (hv : s.ViewAgrees) (h : runCommand s cmd = .ok (s', r)) : s'.Tracked ∧ s'.ViewAgrees := by
  have ht' := runCommand_tracked cmd hcmd ht h
  exact ⟨ht', (viewAgrees_iff ht').2
    (runCommand_notOrphaned cmd hcmd hoff ((viewAgrees_iff ht).1 hv) h)⟩

/-- Over every run through the session whose mastership scopes at the top hold no logoff, from
a station whose view agrees with the controller, the session stays tracked and its view agrees
with the controller after every command. -/
theorem runAll_viewAgrees : ∀ (cmds : List Command) {s s' : Station} {records : List Record},
    Command.allThroughSession cmds = true → (∀ c ∈ cmds, c.logsOffHeld = false) →
    s.Tracked → s.ViewAgrees → runAll s cmds = .ok (s', records) → s'.Tracked ∧ s'.ViewAgrees := by
  intro cmds s s' records hcmds hoff ht hv h
  refine runAll_keeps (P := fun s => s.Tracked ∧ s.ViewAgrees)
    (Q := fun c => c.throughSession = true ∧ c.logsOffHeld = false)
    (fun c _ _ _ hc hs h => runCommand_viewAgrees c hc.1 hc.2 hs.1 hs.2 h) cmds
    (fun c hc => ⟨(Command.allThroughSession_iff cmds).1 hcmds c hc, hoff c hc⟩) ⟨ht, hv⟩ h

/-- A logon, a mastership scope that starts execution, and a logoff: the view agrees with the
controller after each. -/
theorem runAll_viewAgrees_start_in_scope :
    let cmds : List Command :=
      [.step "logon" (.logon {}), .withMastership [.step "start" .startExecution],
       .step "logoff" .logoff]
    Command.allThroughSession cmds = true ∧ (∀ c ∈ cmds, c.logsOffHeld = false) ∧
      ({} : Station).Tracked ∧ ({} : Station).ViewAgrees ∧
      ∃ s' records, runAll {} cmds = .ok (s', records) ∧ s'.Tracked ∧ s'.ViewAgrees := by
  intro cmds
  have hcmds : Command.allThroughSession cmds = true := by decide
  have hoff : ∀ c ∈ cmds, c.logsOffHeld = false := by decide
  have ht : ({} : Station).Tracked := ⟨rfl, fun _ => rfl⟩
  have hv : ({} : Station).ViewAgrees := by
    unfold ViewAgrees
    decide
  obtain ⟨s', records, hrun⟩ : ∃ s' records, runAll {} cmds = .ok (s', records) := ⟨_, _, rfl⟩
  exact ⟨hcmds, hoff, ht, hv, s', records, hrun, runAll_viewAgrees cmds hcmds hoff ht hv hrun⟩

/-- Logging off inside a mastership scope orphans the session: the scope puts it back to
`LoggedOn` with no controller named while no client is logged on, and a later logon is refused
although the controller would take one. -/
theorem logoff_in_mastership_scope_orphans :
    ∃ s' records, runAll {} [.step "logon" (.logon {}),
        .withMastership [.step "logoff" .logoff]] = .ok (s', records) ∧
      s'.session.state = .loggedOn ∧ s'.session.handle = none ∧
      s'.controller.loggedOn = false ∧ ¬s'.ViewAgrees ∧
      ∃ e, logon {} s' = (s', .error e) ∧ (s'.controller.logon {} s'.session.user).isOk := by
  refine ⟨_, _, rfl, rfl, rfl, rfl, ?_, _, rfl, rfl⟩
  unfold ViewAgrees
  decide

end Station

end RobotProgram
