import RobotProgram.Controller.Scenario
/-!
# RobotProgram.Proofs.PointerLog

What a position tracker records, over every interleaving of the controller's announcements with
the tracker task's steps and with attaching and detaching. A tracker takes in events in two
places: its log, where the task has recorded them, and its receiver, where they wait for the
task. `received` lists both, oldest first. Every step keeps the tracker `Sound` (sample `k` is
numbered `k`, and a detached tracker's receiver holds nothing), only ever appends to the log, and
adds to `received` at most what the step owes the tracker: an announcement while attached. An
announcement that finds the receiver full loses its oldest event, and only such a step loses one.

Main statement: `run_records_announced_while_attached`. Over every run, the log only grows, its
samples stay numbered by their place, the events taken in are those announced while attached,
each at most once and in order, and all of them exactly when no announcement finds the receiver
full; an attach while attached is refused and changes nothing. `receive_eq_run` shows how a
station delivers an event: it is the interleaving in which the task takes the event at once,
which never finds the receiver full.
-/

namespace RobotProgram

open scoped List

/-- The event a sample records. -/
def PointerSample.event (p : PointerSample) : PointerEvent := ⟨p.kind, p.module, p.row⟩

namespace Tracker

/-- What can happen to one tracker, in any order: the controller announces an event, the
tracker task takes one event from its receiver, or the tracker is attached or detached. -/
inductive Op where
  | emit (e : PointerEvent)
  | recv
  | attach
  | detach
deriving Repr, DecidableEq

/-- Whether the tracker is attached after an operation, from whether it was before. -/
def Op.attachedAfter (attached : Bool) : Op → Bool
  | .attach => true
  | .detach => false
  | _ => attached

/-- What an operation owes the tracker: an event announced while it is attached. -/
def Op.owes (attached : Bool) : Op → List PointerEvent
  | .emit e => if attached then [e] else []
  | _ => []

/-- One step of a tracker; a refused attach changes nothing. -/
def step (t : Tracker) : Op → Tracker
  | .emit e => t.offer e
  | .recv => t.recv
  | .attach =>
    match t.attach with
    | .ok t' => t'
    | .error _ => t
  | .detach => t.detach

/-- The steps of a run, one after the other. -/
def run (t : Tracker) (ops : List Op) : Tracker := ops.foldl step t

/-- Every event the tracker has taken in: those it recorded, then those its receiver holds. -/
def received (t : Tracker) : List PointerEvent := t.log.map PointerSample.event ++ t.pending

/-- The events a run owes a tracker, attached or not at its start: those announced while it is
attached, in the order they are announced. -/
def owed (attached : Bool) : List Op → List PointerEvent
  | [] => []
  | op :: ops => op.owes attached ++ owed (op.attachedAfter attached) ops

/-- Whether an operation is an announcement that finds the receiver full. -/
def overflows (t : Tracker) : Op → Bool
  | .emit _ => t.attached && channelCapacity ≤ t.pending.length
  | _ => false

/-- The task keeps up along a run: no announcement finds the receiver full. -/
def KeepsUp : Tracker → List Op → Prop
  | _, [] => True
  | t, op :: ops => t.overflows op = false ∧ KeepsUp (t.step op) ops

/-- Sample `k` of a log is numbered `k`. -/
def Numbered (log : List PointerSample) : Prop :=
  ∀ k (p : PointerSample), log[k]? = some p → p.seq = k

/-- A tracker as the task keeps it: its samples are numbered by their place, and the receiver
of a detached tracker holds nothing. -/
structure Sound (t : Tracker) : Prop where
  numbered : Numbered t.log
  idle : t.attached = false → t.pending = []

variable {t : Tracker}

/-! ## Recording -/

@[simp] theorem record_attached (t : Tracker) (e : PointerEvent) :
    (t.record e).attached = t.attached := rfl

@[simp] theorem record_pending (t : Tracker) (e : PointerEvent) :
    (t.record e).pending = t.pending := rfl

@[simp] theorem record_events (t : Tracker) (e : PointerEvent) :
    (t.record e).log.map PointerSample.event = t.log.map PointerSample.event ++ [e] := by
  simp [record, PointerSample.event]

theorem log_prefix_record (t : Tracker) (e : PointerEvent) : t.log <+: (t.record e).log :=
  List.prefix_append _ _

/-- A sample appended under the length of the log is numbered by its place. -/
theorem numbered_record {t : Tracker} (h : Numbered t.log) (e : PointerEvent) :
    Numbered (t.record e).log := by
  intro k p hk
  simp only [record, List.getElem?_append, List.getElem?_singleton] at hk
  split at hk
  · exact h k p hk
  · split at hk
    · cases hk
      simp only
      omega
    · cases hk

/-- Recording events one after another appends exactly them, numbered on, and touches nothing
else. The induction is on the events, from any tracker. -/
theorem foldl_record (es : List PointerEvent) (t : Tracker) :
    (es.foldl record t).attached = t.attached ∧ (es.foldl record t).pending = t.pending ∧
      t.log <+: (es.foldl record t).log ∧
      (es.foldl record t).log.map PointerSample.event = t.log.map PointerSample.event ++ es ∧
      (Numbered t.log → Numbered (es.foldl record t).log) := by
  induction es generalizing t with
  | nil => simp
  | cons e es ih =>
    obtain ⟨hattached, hpending, hprefix, hevents, hnumbered⟩ := ih (t.record e)
    refine ⟨by simpa using hattached, by simpa using hpending,
      (log_prefix_record t e).trans hprefix, by simp [hevents], fun h => ?_⟩
    exact hnumbered (numbered_record h e)

/-! ## One step -/

theorem drain_spec (t : Tracker) :
    t.drain.attached = t.attached ∧ t.drain.pending = [] ∧ t.log <+: t.drain.log ∧
      t.drain.received = t.received ∧ (Numbered t.log → Numbered t.drain.log) := by
  obtain ⟨hattached, hpending, hprefix, hevents, hnumbered⟩ :=
    foldl_record t.pending { t with pending := [] }
  exact ⟨hattached, hpending, hprefix, by simp [received, drain, hevents, hpending], hnumbered⟩

@[simp] theorem step_emit (t : Tracker) (e : PointerEvent) : t.step (.emit e) = t.offer e := rfl

@[simp] theorem step_recv (t : Tracker) : t.step .recv = t.recv := rfl

@[simp] theorem step_detach (t : Tracker) : t.step .detach = t.detach := rfl

theorem step_attach (t : Tracker) :
    t.step .attach = if t.attached then t else { t with attached := true, pending := [] } := by
  simp only [step, attach]
  cases t.attached <;> rfl

@[simp] theorem offer_log (t : Tracker) (e : PointerEvent) : (t.offer e).log = t.log := by
  unfold offer
  split <;> rfl

@[simp] theorem offer_attached (t : Tracker) (e : PointerEvent) :
    (t.offer e).attached = t.attached := by
  unfold offer
  split <;> simp_all

theorem offer_of_detached (h : t.attached = false) (e : PointerEvent) : t.offer e = t := by
  simp [offer, h]

@[simp] theorem recv_attached (t : Tracker) : t.recv.attached = t.attached := by
  unfold recv
  split <;> rfl

/-- The task's step moves an event from the receiver to the log. -/
theorem recv_received (t : Tracker) : t.recv.received = t.received := by
  unfold recv
  split <;> simp_all [received]

theorem attached_step (t : Tracker) (op : Op) :
    (t.step op).attached = op.attachedAfter t.attached := by
  cases op with
  | emit e => simp [Op.attachedAfter]
  | recv => simp [Op.attachedAfter]
  | attach => rw [step_attach]; split <;> simp_all [Op.attachedAfter]
  | detach => simp [detach, Op.attachedAfter]

theorem log_prefix_step (t : Tracker) (op : Op) : t.log <+: (t.step op).log := by
  cases op with
  | emit e => simp
  | recv =>
    rw [step_recv]
    unfold recv
    split
    · exact List.prefix_refl _
    · exact log_prefix_record _ _
  | attach => rw [step_attach]; split <;> exact List.prefix_refl _
  | detach => exact (drain_spec t).2.2.1

theorem sound_step (ht : t.Sound) (op : Op) : (t.step op).Sound := by
  cases op with
  | emit e =>
    cases hattached : t.attached
    · rw [step_emit, offer_of_detached hattached]
      exact ht
    · exact ⟨by simpa using ht.numbered, by simp [hattached]⟩
  | recv =>
    rw [step_recv]
    unfold recv
    split
    · exact ht
    · rename_i e rest hpending
      refine ⟨numbered_record ht.numbered e, fun hdetached => ?_⟩
      have := ht.idle (by simpa using hdetached)
      simp [hpending] at this
  | attach =>
    rw [step_attach]
    split
    · exact ht
    · exact ⟨ht.numbered, by simp⟩
  | detach =>
    obtain ⟨-, hpending, -, -, hnumbered⟩ := drain_spec t
    exact ⟨hnumbered ht.numbered, fun _ => hpending⟩

/-- An announcement to an attached tracker queues the event; the receiver loses the oldest of
what it holds exactly when it was full. -/
theorem received_offer (ht : t.attached = true) (e : PointerEvent) :
    (t.offer e).received = t.log.map PointerSample.event ++
      (t.pending ++ [e]).drop (t.pending.length + 1 - channelCapacity) := by
  simp [offer, ht, received]

/-- An announcement to an attached tracker is taken in after the events before it, unless the
receiver is full. -/
theorem received_offer_sublist (ht : t.attached = true) (e : PointerEvent) :
    (t.offer e).received <+ t.received ++ [e] ∧
      ((t.offer e).received = t.received ++ [e] ↔ t.pending.length < channelCapacity) := by
  rw [received_offer ht, received, List.append_assoc]
  refine ⟨(List.drop_sublist _ _).append_left _, fun heq => ?_, fun hroom => ?_⟩
  · -- taking in everything leaves nothing to drop
    have hlen := congrArg List.length (List.append_cancel_left heq)
    simp only [List.length_drop, List.length_append, List.length_singleton] at hlen
    omega
  · rw [show t.pending.length + 1 - channelCapacity = 0 by omega, List.drop_zero]

/-- One step takes in at most what it owes, and all of it exactly when it does not find the
receiver full. -/
theorem received_step (ht : t.Sound) (op : Op) :
    (t.step op).received <+ t.received ++ op.owes t.attached ∧
      ((t.step op).received = t.received ++ op.owes t.attached ↔ t.overflows op = false) := by
  cases op with
  | emit e =>
    cases hattached : t.attached
    · -- a detached tracker has no receiver: nothing is queued
      simp [step, offer, hattached, Op.owes, overflows]
    · simpa [step, Op.owes, overflows, hattached] using received_offer_sublist hattached e
  | recv => simp [recv_received, Op.owes, overflows]
  | attach =>
    have h : (t.step .attach).received = t.received := by
      rw [step_attach]
      split
      · rfl
      · simp [received, ht.idle (by simp_all)]
    simp [h, Op.owes, overflows]
  | detach =>
    have h : t.detach.received = t.received := (drain_spec t).2.2.2.1
    simp [h, Op.owes, overflows]

/-! ## Runs -/

@[simp] theorem run_nil (t : Tracker) : t.run [] = t := rfl

@[simp] theorem run_cons (t : Tracker) (op : Op) (ops : List Op) :
    t.run (op :: ops) = (t.step op).run ops := rfl

/-- Over a run, what a step keeps, the run keeps: the tracker stays sound, the log only grows,
and the events taken in are at most those owed, all of them exactly when the task keeps up.
The induction is on the run, from any sound tracker. -/
theorem run_spec (ht : t.Sound) (ops : List Op) :
    (t.run ops).Sound ∧ t.log <+: (t.run ops).log ∧
      (t.run ops).received <+ t.received ++ owed t.attached ops ∧
      ((t.run ops).received = t.received ++ owed t.attached ops ↔ t.KeepsUp ops) := by
  induction ops generalizing t with
  | nil => simpa [owed, KeepsUp] using ht
  | cons op ops ih =>
    obtain ⟨hsound, hprefix, hsub, hexact⟩ := ih (sound_step ht op)
    obtain ⟨hsub₁, hexact₁⟩ := received_step ht op
    have howed : owed t.attached (op :: ops) = op.owes t.attached ++ owed (t.step op).attached ops := by
      rw [owed, attached_step]
    rw [run_cons, howed, ← List.append_assoc]
    refine ⟨hsound, (log_prefix_step t op).trans hprefix, hsub.trans (hsub₁.append_right _), ?_⟩
    constructor
    · -- a run that takes in everything owed took in everything at its first step
      intro heq
      have hle := hsub.length_le
      have hle₁ := hsub₁.length_le
      have hlen := congrArg List.length heq
      simp only [List.length_append] at hle hle₁ hlen
      have hstep := hsub₁.eq_of_length (by simp only [List.length_append]; omega)
      exact ⟨hexact₁.1 hstep, hexact.1 (by rw [heq, hstep])⟩
    · rintro ⟨hroom, hkeeps⟩
      rw [hexact.2 hkeeps, hexact₁.2 hroom]

/-- Detaching stops the recording: with no further attach, the log stays as it is. -/
theorem run_detached_log (ht : t.Sound) (hdetached : t.attached = false) {ops : List Op}
    (hno : .attach ∉ ops) : (t.run ops).log = t.log := by
  induction ops generalizing t with
  | nil => rfl
  | cons op ops ih =>
    have hop : op ≠ .attach := fun h => hno (h ▸ List.mem_cons_self)
    have hstep : t.step op = t := by
      cases op with
      | emit e => simp [step, offer, hdetached]
      | recv => simp [step, recv, ht.idle hdetached]
      | attach => exact absurd rfl hop
      | detach =>
        -- the receiver of a detached tracker is empty: there is nothing to drain
        have hidle := ht.idle hdetached
        cases t
        simp_all [step, detach, drain]
    rw [run_cons, hstep]
    exact ih ht hdetached fun h => hno (List.mem_cons_of_mem _ h)

end Tracker

/-! ## The station's trackers -/

namespace Station

/-- A second attach while attached is refused, and changes nothing. -/
theorem attachTracker_refused {s : Station} {name : String}
    (hconnected : s.session.state ≠ .disconnected) (hattached : (s.tracker name).attached = true) :
    attachTracker name s =
      (s, .error (.invalidSessionState "attach tracker" "detached tracker" "attached")) := by
  simp [attachTracker, requireConnected, hconnected, Tracker.attach, hattached, Action.result,
    Action.get, bind]

end Station

namespace Tracker

variable {t : Tracker}

/-- A station announces an event to a tracker whose receiver is empty as the run in which the
task takes the event at once, and that run keeps up. -/
theorem receive_eq_run (hidle : t.pending = []) (e : PointerEvent) :
    t.receive e = t.run [.emit e, .recv] ∧ t.KeepsUp [.emit e, .recv] := by
  obtain ⟨log, attached, pending⟩ := t
  subst hidle
  cases attached <;> simp [receive, offer, drain, recv, KeepsUp, overflows, channelCapacity]

/-- Over every interleaving of announcements, task steps, attaches and detaches, from a sound
tracker: the tracker stays sound, so sample `k` of its log is numbered `k`; the log only grows;
the events it takes in are those announced while it is attached, each at most once and in the
order announced, and all of them exactly when no announcement finds its receiver full; a run
that ends detached has recorded all it took in, and a detached tracker records nothing until it
is attached again. On a station, attaching a tracker that is attached is refused, and changes
nothing. -/
theorem run_records_announced_while_attached (ht : t.Sound) (ops : List Op) :
    (t.run ops).Sound ∧ t.log <+: (t.run ops).log ∧
      (t.run ops).received <+ t.received ++ owed t.attached ops ∧
      ((t.run ops).received = t.received ++ owed t.attached ops ↔ t.KeepsUp ops) ∧
      ((t.run ops).attached = false →
        (t.run ops).received = (t.run ops).log.map PointerSample.event) ∧
      (t.attached = false → .attach ∉ ops → (t.run ops).log = t.log) ∧
      ∀ (s : Station) (name : String), s.session.state ≠ .disconnected →
        (s.tracker name).attached = true →
        Station.attachTracker name s =
          (s, .error (.invalidSessionState "attach tracker" "detached tracker" "attached")) := by
  obtain ⟨hsound, hprefix, hsub, hexact⟩ := run_spec ht ops
  refine ⟨hsound, hprefix, hsub, hexact, fun hdetached => ?_,
    fun hdetached hno => run_detached_log ht hdetached hno,
    fun _ _ hconnected hattached => Station.attachTracker_refused hconnected hattached⟩
  -- a detached tracker's receiver is empty
  simp [received, hsound.idle hdetached]

/-- Announced before the attach and after the detach, an event is not recorded; the second
attach is refused. -/
example : (({} : Tracker).run [.emit ⟨.program, "M", 1⟩, .attach, .emit ⟨.program, "M", 2⟩,
      .recv, .emit ⟨.motion, "M", 3⟩, .attach, .detach, .emit ⟨.program, "M", 4⟩]).log =
    [⟨0, .program, "M", 2⟩, ⟨1, .motion, "M", 3⟩] := rfl

theorem sound_empty : Sound {} := ⟨fun _ _ h => by simp at h, fun _ => rfl⟩

theorem run_records_announced_while_attached_one_attachment :
    let ops : List Op := [.emit ⟨.program, "M", 1⟩, .attach, .emit ⟨.program, "M", 2⟩, .recv,
      .emit ⟨.motion, "M", 3⟩, .attach, .detach, .emit ⟨.program, "M", 4⟩]
    Sound {} ∧ ((({} : Tracker).run ops).received = ({} : Tracker).received ++ owed false ops ↔
      ({} : Tracker).KeepsUp ops) :=
  ⟨sound_empty, (run_records_announced_while_attached sound_empty _).2.2.2.1⟩

end Tracker

end RobotProgram
