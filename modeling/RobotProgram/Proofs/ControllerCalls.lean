import Mathlib.Data.List.Nodup
import RobotProgram.Proofs.Session
/-!
# RobotProgram.Proofs.ControllerCalls

The simulated controller driven call by call, as a client drives it through its transport, with
failures injected between the calls.

* A call that fails changes nothing, with three exceptions (`call_error`): a load that passed
  its mastership check has used up a pending rejection, and giving back mastership drops it and
  uses up a pending release failure. Most operations cannot do otherwise, since they compute
  the new controller or an error; the loads and the release compute both.
* The loaded modules keep pairwise distinct names (`callAll_names_nodup`). A call leaves the
  names as they were, unloads every module, or adds one module whose name is not loaded yet
  (`call_names`): a module of a loaded name replaces its namesake, or is refused when added.

Main statement: `controller_calls_fail_cleanly`.
-/

namespace RobotProgram

/-- A call a client makes on the controller through its transport, or a control of the
simulated controller: reachability, credentials, operating mode, the injected failures, the
current position and pointer events. `putFile` carries the text read from the local file, or
the error reading it gave. -/
inductive ControllerCall where
  | setReachable (reachable : Bool)
  | setCredentials (user : UserInfo)
  | setMode (mode : OperatingMode)
  | rejectNextLoad (reason : String)
  | failNextRelease
  | setCurrentPosition (pose : CartesianPose) (joints : JointPose)
  | emitPointer (event : PointerEvent)
  | logon (handle : ControllerHandle) (user : UserInfo)
  | logoff
  | requestMastership
  | releaseMastership
  | operatingMode
  | putFile (localText : Except Error String) (remote : String) (overwrite : Bool)
  | loadProgram (remote : String) (mode : LoadMode)
  | loadModule (remote : String) (mode : LoadMode)
  | getData (module name : String)
  | setData (module name value : String)
  | searchData (module : String)
  | programPointer
  | setProgramPointer (module : String) (row : Nat)
  | resetProgramPointer
  | start
  | currentRobtarget
  | currentJointtarget

namespace SimController

/-- The controller after an operation that computes either a new controller or an error: on an
error it stays as it was. -/
def settle (c : SimController) : Except Error SimController → SimController × Except Error Unit
  | .ok c' => (c', .ok ())
  | .error e => (c, .error e)

/-- Runs one call: the controller after it, and whether it failed. A call that answers a value
leaves the controller as it is; the value does not matter here. -/
def call (c : SimController) : ControllerCall → SimController × Except Error Unit
  | .setReachable b => ({ c with reachable := b }, .ok ())
  | .setCredentials u => ({ c with credentials := u }, .ok ())
  | .setMode m => ({ c with mode := m }, .ok ())
  | .rejectNextLoad reason => ({ c with rejectNextLoad := some reason }, .ok ())
  | .failNextRelease => ({ c with failNextRelease := true }, .ok ())
  | .setCurrentPosition pose joints => ({ c with robtarget := pose, jointtarget := joints }, .ok ())
  | .emitPointer e => (c.notePointer e, .ok ())
  | .logon handle user => c.settle (c.logon handle user)
  | .logoff => (c.logoff, .ok ())
  | .requestMastership => c.settle c.requestMastership
  | .releaseMastership => c.releaseMastership
  | .operatingMode => (c, c.operatingMode.map fun _ => ())
  | .putFile text remote overwrite => c.settle (c.putFile text remote overwrite)
  | .loadProgram remote mode => c.loadProgram remote mode
  | .loadModule remote mode => c.loadModule remote mode
  | .getData module name => (c, (c.getData module name).map fun _ => ())
  | .setData module name value => c.settle (c.setData module name value)
  | .searchData module => (c, (c.searchData module).map fun _ => ())
  | .programPointer => (c, c.programPointer.map fun _ => ())
  | .setProgramPointer module row => c.settle (c.setProgramPointer module row)
  | .resetProgramPointer => c.settle c.resetProgramPointer
  | .start => c.settle c.start
  | .currentRobtarget => (c, c.currentRobtarget.map fun _ => ())
  | .currentJointtarget => (c, c.currentJointtarget.map fun _ => ())

/-- The controller after the calls, one after another. -/
def callAll (c : SimController) (calls : List ControllerCall) : SimController :=
  calls.foldl (fun c k => (c.call k).1) c

/-- What a failing call leaves of the controller: the controller as it was, except that a load
which passed its mastership check has used up a pending rejection, and that giving back
mastership drops it and uses up a pending release failure. -/
def afterFailure (c : SimController) : ControllerCall → SimController
  | .loadProgram .. | .loadModule .. =>
    if c.loggedOn && c.mastership then { c with rejectNextLoad := none } else c
  | .releaseMastership => { c with mastership := false, failNextRelease := false }
  | _ => c

/-- The names of the loaded modules, in load order. -/
def moduleNames (c : SimController) : List String := c.modules.map (·.name)

variable {c c' : SimController}

/-! ## Failing calls -/

theorem settle_error {r : Except Error SimController} {e : Error}
    (h : (c.settle r).2 = .error e) : (c.settle r).1 = c := by
  cases r with
  | ok => cases h
  | error => rfl

/-- A controller with no pending rejection is the same with the rejection cleared. -/
theorem clear_rejectNextLoad (h : c.rejectNextLoad = none) : { c with rejectNextLoad := none } = c := by
  cases c
  simp_all

/-- A load refused by the mastership check changes nothing: the check passes only with a client
logged on and mastership held. -/
theorem mastership_flags_of_error {operation : String} {err : Error}
    (h : c.requireMastership operation = .error err) :
    (c.loggedOn && c.mastership) = false := by
  cases hboth : (c.loggedOn && c.mastership)
  · rfl
  · rw [Bool.and_eq_true] at hboth
    rw [show c.requireMastership operation = .ok () from requireMastership_eq_ok.mpr hboth] at h
    cases h

/-- A failing program load changes nothing but a pending rejection, used up once the mastership
check has passed. -/
theorem loadProgram_error {remote : String} {mode : LoadMode} {e : Error}
    (h : (c.loadProgram remote mode).2 = .error e) :
    (c.loadProgram remote mode).1 =
      if c.loggedOn && c.mastership then { c with rejectNextLoad := none } else c := by
  cases hcheck : c.requireMastership "load program" with
  | error err => simp [loadProgram, hcheck, mastership_flags_of_error hcheck]
  | ok u =>
    have hflags : (c.loggedOn && c.mastership) = true :=
      Bool.and_eq_true _ _ ▸ requireMastership_eq_ok.mp hcheck
    rw [if_pos hflags]
    cases hreject : c.rejectNextLoad with
    | some reason => simp [loadProgram, hcheck, hreject]
    | none =>
      -- every later refusal returns the controller as it was, which has nothing pending
      rw [clear_rejectNextLoad hreject]
      by_cases hfile : (c.storedFile remote).isNone = true
      · simp [loadProgram, hcheck, hreject, hfile]
      · simp [loadProgram, hcheck, hreject, hfile] at h

/-- A failing module load changes nothing but a pending rejection, used up once the mastership
check has passed. -/
theorem loadModule_error {remote : String} {mode : LoadMode} {e : Error}
    (h : (c.loadModule remote mode).2 = .error e) :
    (c.loadModule remote mode).1 =
      if c.loggedOn && c.mastership then { c with rejectNextLoad := none } else c := by
  cases hcheck : c.requireMastership "load module" with
  | error err => simp [loadModule, hcheck, mastership_flags_of_error hcheck]
  | ok u =>
    have hflags : (c.loggedOn && c.mastership) = true :=
      Bool.and_eq_true _ _ ▸ requireMastership_eq_ok.mp hcheck
    rw [if_pos hflags]
    cases hreject : c.rejectNextLoad with
    | some reason => simp [loadModule, hcheck, hreject]
    | none =>
      rw [clear_rejectNextLoad hreject]
      -- a missing file, a text that does not scan and a refused addition all return `c`
      cases hfile : c.storedFile remote with
      | none => simp [loadModule, hcheck, hreject, hfile]
      | some text =>
        cases hscan : scanModule text with
        | error reason => simp [loadModule, hcheck, hreject, hfile, hscan]
        | ok m =>
          by_cases hloaded : (c.module? m.name).isSome = true
          · cases mode with
            | add => simp [loadModule, hcheck, hreject, hfile, hscan, hloaded]
            | replace => simp [loadModule, hcheck, hreject, hfile, hscan, hloaded] at h
          · simp [loadModule, hcheck, hreject, hfile, hscan, hloaded] at h

/-- Giving back mastership drops it and any pending release failure, whether it fails or not. -/
theorem releaseMastership_fst (c : SimController) :
    c.releaseMastership.1 = { c with mastership := false, failNextRelease := false } := by
  unfold releaseMastership
  split <;> rfl

/-- The inversion of a failing call: it leaves what `afterFailure` says. -/
theorem call_error {k : ControllerCall} {e : Error} (h : (c.call k).2 = .error e) :
    (c.call k).1 = c.afterFailure k := by
  cases k <;> simp only [call, afterFailure] at h ⊢
  all_goals first
    | exact settle_error h
    | exact loadProgram_error h
    | exact loadModule_error h
    | exact releaseMastership_fst c
    | rfl
    | cases h

/-- Giving back mastership drops it, whether the release is reported or fails. -/
theorem call_releaseMastership_mastership (c : SimController) :
    (c.call .releaseMastership).1.mastership = false := by
  rw [call, releaseMastership_fst]

/-! ## The names of the loaded modules -/

theorem mem_moduleNames_iff {n : String} : n ∈ moduleNames c ↔ (c.module? n).isSome := by
  simp [moduleNames, module?, List.find?_isSome]

/-- Replacing an element by one with the same image keeps the images. -/
theorem map_replaceFirst {α β : Type} (p : α → Bool) (f : α → α) (g : α → β)
    (hf : ∀ x, g (f x) = g x) (xs : List α) : (replaceFirst p f xs).map g = xs.map g := by
  induction xs with
  | nil => rfl
  | cons x xs ih =>
    unfold replaceFirst
    split <;> simp [hf, ih]

/-- An operation whose every result has the names of `c` leaves them as they are. -/
theorem settle_names {r : Except Error SimController}
    (hr : ∀ c', r = .ok c' → moduleNames c' = moduleNames c) :
    moduleNames (c.settle r).1 = moduleNames c := by
  cases r with
  | ok c' => exact hr c' rfl
  | error => rfl

theorem logon_names {handle : ControllerHandle} {user : UserInfo}
    (h : c.logon handle user = .ok c') : moduleNames c' = moduleNames c := by
  rw [logon_eq_ok h]
  rfl

theorem requestMastership_names (h : c.requestMastership = .ok c') :
    moduleNames c' = moduleNames c := by
  simp [requestMastership, requireLoggedOn_eq_ok] at h
  obtain ⟨-, -, rfl⟩ := h
  rfl

theorem putFile_names {text : Except Error String} {remote : String} {overwrite : Bool}
    (h : c.putFile text remote overwrite = .ok c') : moduleNames c' = moduleNames c := by
  simp [putFile, requireLoggedOn_eq_ok] at h
  obtain ⟨_, -, -, -, rfl⟩ := h
  rfl

/-- Writing data changes one item of one module, never a module's name. -/
theorem setData_names {module name value : String} (h : c.setData module name value = .ok c') :
    moduleNames c' = moduleNames c := by
  simp only [setData, Except.bind_eq_ok] at h
  obtain ⟨_, -, h⟩ := h
  split at h
  · exact absurd h Except.throw_ne_ok
  · cases h
    unfold moduleNames
    apply map_replaceFirst
    intro m
    rfl

theorem setProgramPointer_names {module : String} {row : Nat}
    (h : c.setProgramPointer module row = .ok c') : moduleNames c' = moduleNames c := by
  simp [setProgramPointer, requireMastership_eq_ok] at h
  obtain ⟨-, -, rfl⟩ := h
  rfl

theorem resetProgramPointer_names (h : c.resetProgramPointer = .ok c') :
    moduleNames c' = moduleNames c := by
  simp only [resetProgramPointer, Except.bind_eq_ok] at h
  obtain ⟨_, -, h⟩ := h
  split at h
  · exact absurd h Except.throw_ne_ok
  · cases h
    rfl

theorem start_names (h : c.start = .ok c') : moduleNames c' = moduleNames c := by
  simp [start, requireMastership_eq_ok] at h
  obtain ⟨-, -, rfl⟩ := h
  rfl

/-- Loading a program keeps the modules, or unloads them all when it replaces what is loaded. -/
theorem loadProgram_names (remote : String) (mode : LoadMode) :
    moduleNames (c.loadProgram remote mode).1 = moduleNames c ∨
      moduleNames (c.loadProgram remote mode).1 = [] := by
  unfold loadProgram
  repeat' split
  all_goals first
    | exact Or.inl rfl
    | exact Or.inr rfl

/-- Loading a module keeps the names, a replaced module having the name of the one it
replaces, or adds the name of a module not loaded yet. -/
theorem loadModule_names (remote : String) (mode : LoadMode) :
    moduleNames (c.loadModule remote mode).1 = moduleNames c ∨
      ∃ n, n ∉ moduleNames c ∧ moduleNames (c.loadModule remote mode).1 = moduleNames c ++ [n] := by
  unfold loadModule
  repeat' split
  -- every refusal returns the modules as they were
  all_goals try exact Or.inl rfl
  · -- the namesake is replaced
    left
    simp only [moduleNames, List.map_map]
    apply List.map_congr_left
    intro x _
    simp only [Function.comp_apply]
    split <;> simp_all
  · -- a new name goes to the end
    next m _ hnew =>
    right
    exact ⟨m.name, mt mem_moduleNames_iff.mp hnew, by simp [moduleNames]⟩

/-- The inversion of a call on the names: it keeps them, unloads every module, or adds a name
not loaded yet. -/
theorem call_names (c : SimController) (k : ControllerCall) :
    moduleNames (c.call k).1 = moduleNames c ∨ moduleNames (c.call k).1 = [] ∨
      ∃ n, n ∉ moduleNames c ∧ moduleNames (c.call k).1 = moduleNames c ++ [n] := by
  cases k with
  | logon handle user => exact Or.inl (settle_names fun _ => logon_names)
  | requestMastership => exact Or.inl (settle_names fun _ => requestMastership_names)
  | putFile text remote overwrite => exact Or.inl (settle_names fun _ => putFile_names)
  | setData module name value => exact Or.inl (settle_names fun _ => setData_names)
  | setProgramPointer module row => exact Or.inl (settle_names fun _ => setProgramPointer_names)
  | resetProgramPointer => exact Or.inl (settle_names fun _ => resetProgramPointer_names)
  | start => exact Or.inl (settle_names fun _ => start_names)
  | loadProgram remote mode => exact (loadProgram_names remote mode).imp_right Or.inl
  | loadModule remote mode => exact (loadModule_names remote mode).imp_right Or.inr
  | releaseMastership => exact Or.inl (by rw [call, releaseMastership_fst]; rfl)
  | emitPointer e =>
    left
    simp only [call, notePointer]
    split <;> rfl
  | _ => exact Or.inl rfl

/-- The step lemma: a call keeps the names pairwise distinct. -/
theorem call_names_nodup (k : ControllerCall) (h : (moduleNames c).Nodup) :
    (moduleNames (c.call k).1).Nodup := by
  rcases call_names c k with hsame | hnone | ⟨n, hn, hadd⟩
  · rwa [hsame]
  · rw [hnone]
    exact List.nodup_nil
  · rw [hadd, ← List.concat_eq_append]
    exact h.concat hn

/-- The run lemma: the calls, one after another, keep the names pairwise distinct. -/
theorem callAll_names_nodup (calls : List ControllerCall) (h : (moduleNames c).Nodup) :
    (moduleNames (c.callAll calls)).Nodup := by
  induction calls generalizing c with
  | nil => exact h
  | cons k calls ih => exact ih (call_names_nodup k h)

/-! ## Calls from a fresh controller -/

/-- Driven by any calls from a fresh controller, the loaded modules keep pairwise distinct
names; a call that fails leaves the controller as `afterFailure` says; and giving back
mastership drops it, whatever the release reports. -/
theorem controller_calls_fail_cleanly :
    (∀ calls : List ControllerCall, (moduleNames (({} : SimController).callAll calls)).Nodup) ∧
    (∀ (c : SimController) (k : ControllerCall) (e : Error),
      (c.call k).2 = .error e → (c.call k).1 = c.afterFailure k) ∧
    ∀ c : SimController, (c.call .releaseMastership).1.mastership = false :=
  ⟨fun calls => callAll_names_nodup calls List.nodup_nil,
    fun _ _ _ h => call_error h,
    call_releaseMastership_mastership⟩

end SimController

end RobotProgram
