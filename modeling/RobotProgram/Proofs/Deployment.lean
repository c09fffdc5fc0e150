import RobotProgram.Proofs.ModuleLoad
import RobotProgram.Proofs.FileWrites
import RobotProgram.Proofs.Session
/-!
# RobotProgram.Proofs.Deployment

Deploying a program to a controller and reading it back. Sending a program checks the two local
files, logs on, takes mastership, makes sure the controller is in automatic mode, uploads the
descriptor and loads it in place of what is loaded, uploads the module and loads it beside it,
starts execution, and gives mastership and the logon back. The module is then the only one
loaded, under the name its header gives, holding what the scanner reads from its text. Reading
the targets or the tools and work objects of that module afterwards reads those items.

* `Station.ReadyToDeploy`: a station a program can be deployed from.
* `Station.HoldsProgram`: local program files whose module file holds a given text;
  `Station.holdsProgram_of_writeProgramFiles`: writing the program files makes them so.
* `Station.sendProgram_loads`: sending the program succeeds and leaves the scanned module loaded,
  on a station that can be logged on to again.
* `Station.readTargetData_loaded`, `Station.readProgramData_loaded`: what the reads give;
  `Station.sendProgram_reads_render`: what they give of a rendered module once sent.

Main statement: `deployed_job_reads_back`: written to program files and deployed from a ready
station, the module of a compiled job reads back as the job's targets, tools and work objects.
-/

namespace RobotProgram

namespace Station

open RobotProgram.Action

/-- A station a program can be deployed from: no session, and a reachable controller in
automatic mode that accepts the session's user, with no mastership given out and no failure
waiting for the next load or release. -/
structure ReadyToDeploy (s : Station) : Prop where
  disconnected : s.session.state = .disconnected
  reachable : s.controller.reachable = true
  credentials : s.session.user = s.controller.credentials
  auto : s.controller.mode = .auto
  noMastership : s.controller.mastership = false
  loadsAccepted : s.controller.rejectNextLoad = none
  releasesAccepted : s.controller.failNextRelease = false

/-- Local program files: both paths end in a file name, the descriptor reads as text, and the
module file holds `text`. -/
structure HoldsProgram (s : Station) (files : ProgramFiles) (text : String) : Prop where
  programName : (fileName? files.program).isSome
  moduleName : (fileName? files.module).isSome
  programText : ∃ t, s.files.readText files.program = .ok t
  moduleText : s.files.readText files.module = .ok text

/-- A station a client can log on to: no session, and a reachable controller that accepts the
session's user. -/
structure CanLogOn (s : Station) : Prop where
  disconnected : s.session.state = .disconnected
  reachable : s.controller.reachable = true
  credentials : s.session.user = s.controller.credentials

/-! ## Local files -/

/-- A path whose file reads as text exists. -/
theorem requireLocalFile_of_readText {path text : String} {s : Station}
    (h : s.files.readText path = .ok text) : requireLocalFile path s = (s, .ok ()) := by
  simp [requireLocalFile, LocalFiles.metadata_of_readText h]

section Written

variable {files : ProgramFiles} {text : String} {s s' : Station}

/-- Writing the program files writes the module text, then a descriptor naming the module file,
and changes nothing but the local files. -/
theorem writeProgramFiles_eq_ok (h : writeProgramFiles files text s = (s', .ok ())) :
    ∃ moduleFile fs, fileName? files.module = some moduleFile ∧
      s.files.writeText files.module text = .ok fs ∧
      fs.writeText files.program (programDescriptor [moduleFile]) = .ok s'.files ∧
      s'.controller = s.controller ∧ s'.session = s.session := by
  unfold writeProgramFiles at h
  cases hname : fileName? files.module with
  | none => simp [hname] at h
  | some moduleFile =>
    simp only [hname, bind_apply, writeLocal] at h
    cases hmodule : s.files.writeText files.module text with
    | error f => simp [hmodule] at h
    | ok fs =>
      simp only [hmodule] at h
      cases hprogram : fs.writeText files.program (programDescriptor [moduleFile]) with
      | error f => simp [hprogram] at h
      | ok fs' =>
        simp only [hprogram, Prod.mk.injEq] at h
        obtain ⟨rfl, -⟩ := h
        exact ⟨moduleFile, fs, rfl, rfl, hprogram, rfl, rfl⟩

/-- Program files written where the module path names no device, under two file names, hold the
module text. -/
theorem holdsProgram_of_writeProgramFiles (h : writeProgramFiles files text s = (s', .ok ()))
    (hdevice : ¬ s.files.NamesDevice files.module)
    (hnames : fileName? files.program ≠ fileName? files.module) : s'.HoldsProgram files text := by
  obtain ⟨moduleFile, fs, -, hmodule, hprogram, -, -⟩ := writeProgramFiles_eq_ok h
  -- the descriptor, written under another name, leaves the module file as it was written
  exact ⟨LocalFiles.fileName?_isSome_of_writeText hprogram,
    LocalFiles.fileName?_isSome_of_writeText hmodule,
    LocalFiles.readText_writeText_exists hprogram,
    LocalFiles.readText_writeText_of_fileName hprogram hnames
      (LocalFiles.readText_writeText hmodule hdevice)⟩

/-- Writing the program files keeps a station ready to deploy. -/
theorem ReadyToDeploy.writeProgramFiles (hready : s.ReadyToDeploy)
    (h : writeProgramFiles files text s = (s', .ok ())) : s'.ReadyToDeploy := by
  obtain ⟨-, -, -, -, -, hcontroller, hsession⟩ := writeProgramFiles_eq_ok h
  obtain ⟨h₁, h₂, h₃, h₄, h₅, h₆, h₇⟩ := hready
  exact ⟨hsession ▸ h₁, hcontroller ▸ h₂, hsession ▸ hcontroller ▸ h₃, hcontroller ▸ h₄,
    hcontroller ▸ h₅, hcontroller ▸ h₆, hcontroller ▸ h₇⟩

end Written

/-! ## Logging on -/

/-- Logging on to a station that allows it. -/
theorem logon_canLogOn {s : Station} (hs : s.CanLogOn) (handle : ControllerHandle) :
    logon handle s =
      ({ s with controller := { s.controller with loggedOn := true },
                session := { s.session with state := .loggedOn, handle := some handle } },
       .ok ()) := by
  rw [logon_eq, if_pos hs.disconnected]
  simp [SimController.logon, hs.reachable, hs.credentials]

/-! ## Inside the mastership scope -/

/-- The controller's files after storing `text` under `remote`, in place of a file there. -/
def storeFile (files : List (String × String)) (remote text : String) : List (String × String) :=
  (files.filter (·.1 != remote)) ++ [(remote, text)]

theorem SimController.storedFile_storeFile (c : SimController) (remote text : String) :
    { c with files := storeFile c.files remote text }.storedFile remote = some text := by
  simp only [SimController.storedFile, storeFile, List.find?_append]
  -- no file of that name is left from before
  rw [List.find?_eq_none.2 (by simp)]
  simp

section Held

variable {s : Station}

/-- In automatic mode, the mode check inside a mastership scope lets the deployment on. -/
theorem requireAuto_auto (hstate : s.session.state = .mastershipHeld)
    (hlogged : s.controller.loggedOn = true) (hauto : s.controller.mode = .auto) :
    requireAuto s = (s, .ok ()) := by
  simp [requireAuto, operatingMode, requireConnected, hstate, askController,
    SimController.operatingMode, SimController.requireLoggedOn, hlogged, hauto]

/-- Copying a local file that reads as text stores the text on the controller under the file's
name. -/
theorem transfer_stores {operation path remote text : String}
    (hstate : s.session.state = .mastershipHeld) (hlogged : s.controller.loggedOn = true)
    (hname : fileName? path = some remote) (hread : s.files.readText path = .ok text) :
    transfer operation path s =
      ({ s with controller := { s.controller with files := storeFile s.controller.files remote text } },
        .ok remote) := by
  simp [transfer, requireLocalFile_of_readText hread, require, hstate, hname, Action.get,
    changeController, SimController.putFile, hread, SimController.requireLoggedOn, hlogged,
    storeFile, Except.mapError, bind, Except.bind, pure, Except.pure]

/-- A stored program loaded in place of what is loaded unloads every module and the pointer. -/
theorem SimController.loadProgram_replace {c : SimController} {remote : String}
    (hlogged : c.loggedOn = true) (hmaster : c.mastership = true) (hload : c.rejectNextLoad = none)
    (hstored : (c.storedFile remote).isSome) :
    c.loadProgram remote .replace =
      ({ c with modules := [], pointer := none, program := some remote }, .ok ()) := by
  simp [SimController.loadProgram, SimController.requireMastership, SimController.requireLoggedOn,
    hlogged, hmaster, hload, Option.isSome_iff_ne_none.1 hstored, bind, Except.bind, pure,
    Except.pure]

/-- A stored module text that scans is loaded after the loaded modules, when none has its
name. -/
theorem SimController.loadModule_new {c : SimController} {remote text : String} {lm : LoadedModule}
    {mode : LoadMode} (hlogged : c.loggedOn = true) (hmaster : c.mastership = true)
    (hload : c.rejectNextLoad = none) (hstored : c.storedFile remote = some text)
    (hscan : scanModule text = .ok lm) (hnew : c.module? lm.name = none) :
    c.loadModule remote mode = ({ c with modules := c.modules ++ [lm] }, .ok ()) := by
  simp [SimController.loadModule, SimController.requireMastership, SimController.requireLoggedOn,
    hlogged, hmaster, hload, hstored, hscan, hnew, bind, Except.bind, pure, Except.pure]

/-- Execution starts at `main` of the first loaded module. -/
theorem startExecution_starts {lm : LoadedModule} (hstate : s.session.state = .mastershipHeld)
    (hlogged : s.controller.loggedOn = true) (hmaster : s.controller.mastership = true)
    (hauto : s.controller.mode = .auto) (hhead : s.controller.modules.head? = some lm) :
    startExecution s =
      ({ s with controller := { s.controller with pointer := some ⟨lm.name, "main", 0⟩,
                                                  running := true } }, .ok ()) := by
  simp [startExecution, require, hstate, askController, SimController.operatingMode,
    SimController.requireLoggedOn, hlogged, hauto, changeController,
    SimController.resetProgramPointer, SimController.requireMastership, hmaster, hhead,
    SimController.start, bind, Except.bind, pure, Except.pure]

/-- With mastership held in automatic mode, the deployment's body uploads the descriptor and loads
it in place of what is loaded, uploads the module and loads it, and starts execution: the
module that scans from the text is then the only one loaded. -/
theorem deploy_body {files : ProgramFiles} {rp rm t text : String} {lm : LoadedModule}
    (hstate : s.session.state = .mastershipHeld) (hlogged : s.controller.loggedOn = true)
    (hmaster : s.controller.mastership = true) (hauto : s.controller.mode = .auto)
    (hload : s.controller.rejectNextLoad = none)
    (hrp : fileName? files.program = some rp) (hrm : fileName? files.module = some rm)
    (ht : s.files.readText files.program = .ok t) (htext : s.files.readText files.module = .ok text)
    (hscan : scanModule text = .ok lm) :
    (do requireAuto; uploadProgram files.program; uploadModule files.module .add;
        startExecution : Action Unit) s =
      ({ s with controller := { s.controller with
          files := storeFile (storeFile s.controller.files rp t) rm text, program := some rp,
          modules := [lm], pointer := some ⟨lm.name, "main", 0⟩, running := true } }, .ok ()) := by
  have hprogram : uploadProgram files.program s =
      ({ s with controller := { s.controller with
          files := storeFile s.controller.files rp t, modules := [], pointer := none,
          program := some rp } }, .ok ()) := by
    simp only [uploadProgram, bind_apply, transfer_stores hstate hlogged hrp ht, stepController]
    rw [SimController.loadProgram_replace (c := { s.controller with
      files := storeFile s.controller.files rp t }) hlogged hmaster hload
      (by simp [SimController.storedFile_storeFile])]
  -- the module is loaded beside nothing: the descriptor unloaded every module
  have hmodule : uploadModule files.module .add
      { s with controller := { s.controller with
          files := storeFile s.controller.files rp t, modules := [], pointer := none,
          program := some rp } } =
      ({ s with controller := { s.controller with
          files := storeFile (storeFile s.controller.files rp t) rm text,
          modules := [lm], pointer := none, program := some rp } }, .ok ()) := by
    simp only [uploadModule, bind_apply, stepController]
    rw [transfer_stores (s := { s with controller := { s.controller with
      files := storeFile s.controller.files rp t, modules := [], pointer := none,
      program := some rp } }) hstate hlogged hrm htext]
    dsimp only
    rw [SimController.loadModule_new (c := { s.controller with
      files := storeFile (storeFile s.controller.files rp t) rm text, modules := [],
      pointer := none, program := some rp }) hlogged hmaster hload
      (SimController.storedFile_storeFile { s.controller with
        files := storeFile s.controller.files rp t, modules := [], pointer := none,
        program := some rp } rm text) hscan (by simp [SimController.module?])]
    rfl
  simp only [bind_apply, requireAuto_auto hstate hlogged hauto, hprogram, hmodule]
  rw [startExecution_starts (s := { s with controller := { s.controller with
    files := storeFile (storeFile s.controller.files rp t) rm text, modules := [lm],
    pointer := none, program := some rp } }) hstate hlogged hmaster hauto rfl]

end Held

/-! ## Sending the program -/

/-- Sending a program from a ready station succeeds. Afterwards the module that scans from the
module file's text is the only one loaded, and the station can be logged on to again. -/
theorem sendProgram_loads {s : Station} {files : ProgramFiles} {text : String} {lm : LoadedModule}
    (hready : s.ReadyToDeploy) (hfiles : s.HoldsProgram files text)
    (hscan : scanModule text = .ok lm) (handle : ControllerHandle) :
    (sendProgram handle files s).2 = .ok () ∧ (sendProgram handle files s).1.CanLogOn ∧
      (sendProgram handle files s).1.controller.modules = [lm] := by
  obtain ⟨rp, hrp⟩ := Option.isSome_iff_exists.1 hfiles.programName
  obtain ⟨rm, hrm⟩ := Option.isSome_iff_exists.1 hfiles.moduleName
  obtain ⟨t, ht⟩ := hfiles.programText
  have hlogon := logon_canLogOn ⟨hready.disconnected, hready.reachable, hready.credentials⟩ handle
  -- mastership is granted to the fresh logon
  have henter : enterMastership
      { s with controller := { s.controller with loggedOn := true },
               session := { s.session with state := .loggedOn, handle := some handle } } =
      ({ s with controller := { s.controller with loggedOn := true, mastership := true,
                                                  mastershipGrants := s.controller.mastershipGrants + 1 },
                session := { s.session with state := .mastershipHeld, handle := some handle } },
       .ok ()) := by
    rw [enterMastership_eq, if_pos rfl]
    simp [SimController.requestMastership, SimController.requireLoggedOn, hready.noMastership,
      bind, Except.bind, pure, Except.pure]
  have hbody := deploy_body (s := { s with
      controller := { s.controller with loggedOn := true, mastership := true,
                                        mastershipGrants := s.controller.mastershipGrants + 1 },
      session := { s.session with state := .mastershipHeld, handle := some handle } })
    rfl rfl rfl hready.auto hready.loadsAccepted hrp hrm ht hfiles.moduleText hscan
  -- the local files exist: the workflow goes straight to its logon scope
  have hsend : sendProgram handle files s = withLogon handle (withMastership (do
      requireAuto; uploadProgram files.program; uploadModule files.module .add;
      startExecution)) s := by
    simp only [sendProgram, bind_apply, requireLocalFile_of_readText ht,
      requireLocalFile_of_readText hfiles.moduleText]
  rw [hsend, withLogon_eq, hlogon]
  dsimp only
  rw [withMastership_eq, henter]
  dsimp only
  rw [hbody, exitMastership_eq, logoff_eq]
  simp [SimController.releaseMastership, hready.releasesAccepted, SimController.logoff]
  -- logged off, with the controller reachable and the user unchanged
  exact ⟨rfl, hready.reachable, hready.credentials⟩

/-! ## Reading the module back -/

/-- The items of a loaded module, searched by a client that logs on for it. -/
theorem searchData_loaded {s : Station} {module : String} {lm : LoadedModule} (hs : s.CanLogOn)
    (hmod : s.controller.module? module = some lm) (handle : ControllerHandle) {α : Type}
    (read : List DataItem → Except Error α) :
    (withLogon handle (do let items ← searchData module; result (read items)) s).2 =
      read lm.data := by
  -- logging on changes no loaded module
  have hmod' : ({ s.controller with loggedOn := true } : SimController).module? module = some lm :=
    hmod
  rw [withLogon_eq, logon_canLogOn hs]
  simp [searchData, requireConnected, askController, SimController.searchData,
    SimController.requireLoggedOn, hmod', Action.result]

/-- Reading the targets of a loaded module reads its items as targets. -/
theorem readTargetData_loaded {s : Station} {module : String} {lm : LoadedModule}
    (hs : s.CanLogOn) (hmod : s.controller.module? module = some lm) (handle : ControllerHandle) :
    (readTargetData handle module s).2 = lm.data.foldlM TargetData.add {} :=
  searchData_loaded hs hmod handle _

/-- Reading the tools and work objects of a loaded module reads its items of those types. -/
theorem readProgramData_loaded {s : Station} {module : String} {lm : LoadedModule}
    (hs : s.CanLogOn) (hmod : s.controller.module? module = some lm) (handle : ControllerHandle) :
    (readProgramData handle module s).2 = programDataEntries lm.data :=
  searchData_loaded hs hmod handle _

/-- A rendered module sent from a ready station reads back as the declarations its scan finds. -/
theorem sendProgram_reads_render {s : Station} {files : ProgramFiles} {m : ProgramModule}
    (hready : s.ReadyToDeploy) (hfiles : s.HoldsProgram files m.render)
    (handle : ControllerHandle) :
    (sendProgram handle files s).2 = .ok () ∧
      (readTargetData handle mainModuleName (sendProgram handle files s).1).2 =
        ((Scan.declarations m.render.toList).map (DataItem.ofReading mainModuleName)).foldlM
          TargetData.add {} ∧
      (readProgramData handle mainModuleName (sendProgram handle files s).1).2 =
        programDataEntries
          ((Scan.declarations m.render.toList).map (DataItem.ofReading mainModuleName)) := by
  obtain ⟨hsent, hcan, hmodules⟩ := sendProgram_loads hready hfiles (scanModule_render m) handle
  -- the rendered module is loaded under its header's name
  have hmod : (sendProgram handle files s).1.controller.module? mainModuleName =
      some ⟨mainModuleName,
        (Scan.declarations m.render.toList).map (DataItem.ofReading mainModuleName)⟩ := by
    simp [SimController.module?, hmodules]
  exact ⟨hsent, readTargetData_loaded hcan hmod handle, readProgramData_loaded hcan hmod handle⟩

end Station

open Station in
/-- A compiled job written to local program files and deployed from a ready station reads back
as the job: sending the program succeeds, reading the targets of `MainModule` gives the job's
robot targets and joint targets, in declaration order and under their generated names, each
read back with the sign of zeros dropped and external axes at or above `9e9` unused, and reading
its tools and work objects gives each with the frame it was declared with. The job's names are
words, its speeds, zones and free statements stay on their lines, and no free statement opens a
declaration (`Job.Scannable`); the module path names no device, and the descriptor's file name
is not the module's. -/
theorem deployed_job_reads_back {job : Job} {c : TargetCompiler} (hc : c.LineFree)
    (hscan : job.Scannable) {m : ProgramModule} {sets : List CompiledSet}
    (h : job.compile c = .ok (m, sets)) {s s' : Station} {files : ProgramFiles}
    (hready : s.ReadyToDeploy) (hwrite : writeProgramFiles files m.render s = (s', .ok ()))
    (hdevice : ¬ s.files.NamesDevice files.module)
    (hnames : fileName? files.program ≠ fileName? files.module) (handle : ControllerHandle) :
    (sendProgram handle files s').2 = .ok () ∧
      (readTargetData handle mainModuleName (sendProgram handle files s').1).2 =
        .ok job.targetData ∧
      (readProgramData handle mainModuleName (sendProgram handle files s').1).2 =
        .ok job.programData := by
  obtain ⟨hsent, htargets, hdata⟩ := sendProgram_reads_render (hready.writeProgramFiles hwrite)
    (holdsProgram_of_writeProgramFiles hwrite hdevice hnames) handle
  exact ⟨hsent, htargets.trans (Job.foldlM_add_render hc hscan h),
    hdata.trans (Job.programDataEntries_render hc hscan h)⟩

open Station Scan RobotProgram.Action in
theorem deployed_job_reads_back_gripper_table :
    let pose : Float → CartesianPose := fun x =>
      { position := ⟨x, 0, 400⟩, orientation := ⟨0, 0, 1, 0⟩ }
    let job : Job :=
      { tools := [{ name := "gripper", frame := pose 100 }]
        wobjs := [{ name := "table", frame := pose 0 }]
        blocks := [.moveL { setName := "p", speeds := [.symbol "v100"], zones := [.level 10] }
            [pose 500, pose 600],
          .moveAbsJ { setName := "j", speeds := [.level 100], zones := [.symbol "fine"] }
            [{ joints := ⟨0, 0, 0, 0, 30, 0⟩ }],
          .custom ["WaitTime 1"]] }
    ({} : TargetCompiler).LineFree ∧ job.Scannable ∧ ({} : Station).ReadyToDeploy ∧
      ¬ ({} : Station).files.NamesDevice "m" ∧ fileName? "p" ≠ fileName? "m" ∧
      ∃ m sets s', job.compile {} = .ok (m, sets) ∧
        writeProgramFiles ⟨"p", "m"⟩ m.render {} = (s', .ok ()) ∧
        (sendProgram {} ⟨"p", "m"⟩ s').2 = .ok () ∧
        (readTargetData {} mainModuleName (sendProgram {} ⟨"p", "m"⟩ s').1).2 =
          .ok job.targetData ∧
        (readProgramData {} mainModuleName (sendProgram {} ⟨"p", "m"⟩ s').1).2 =
          .ok job.programData := by
  intro pose job
  have hc := TargetCompiler.lineFree_standard
  have hscan : job.Scannable := by
    refine ⟨?_, by decide, by decide, ?_⟩
    · simp only [job, List.flatMap_cons, List.flatMap_nil, Block.stems, List.append_nil,
        List.singleton_append, List.mem_cons, List.not_mem_nil, or_false, forall_eq_or_imp,
        forall_eq]
      exact ⟨(by decide +kernel : WordText "p").2, (by decide +kernel : WordText "j").2⟩
    · simp only [job, List.mem_append, List.mem_singleton]
      rintro f (rfl | rfl)
      · exact (by decide +kernel : WordText "gripper")
      · exact (by decide +kernel : WordText "table")
  have hready : ({} : Station).ReadyToDeploy := ⟨rfl, rfl, rfl, rfl, rfl, rfl, rfl⟩
  -- the files `m` and `p` of the working directory, written one after the other
  have hname : fileName? "m" = some "m" := by cbv
  have hmodule : ∀ text : String,
      LocalFiles.writeText {} "m" text = .ok ⟨[(["m"], .file text.toUTF8)]⟩ := by
    intro text
    cbv
  have hprogram : ∀ (bytes : ByteArray) (text : String),
      LocalFiles.writeText ⟨[(["m"], .file bytes)]⟩ "p" text =
        .ok ⟨[(["m"], .file bytes), (["p"], .file text.toUTF8)]⟩ := by
    intro bytes text
    cbv
  have hdevice : ¬ ({} : Station).files.NamesDevice "m" := by
    have hentry : LocalFiles.entry? ({} : LocalFiles) "m" = .error .notFound := by cbv
    simp [LocalFiles.NamesDevice, hentry]
  have hnames : fileName? "p" ≠ fileName? "m" := by
    rw [hname, (by cbv : fileName? "p" = some "p")]
    simp
  obtain ⟨⟨m, sets⟩, hjob⟩ :=
    Except.exists_ok_of_isOk (by decide +kernel : (job.compile {}).isOk = true)
  have hwrite : writeProgramFiles ⟨"p", "m"⟩ m.render {} =
      ({ files := ⟨[(["m"], .file m.render.toUTF8),
        (["p"], .file (programDescriptor ["m"]).toUTF8)]⟩ }, .ok ()) := by
    simp only [writeProgramFiles, hname, bind_apply, writeLocal]
    rw [hmodule]
    dsimp only
    rw [hprogram]
  exact ⟨hc, hscan, hready, hdevice, hnames, m, sets, _, hjob, hwrite,
    deployed_job_reads_back hc hscan hjob hready hwrite hdevice hnames {}⟩

open Station in
/-- A free statement that opens a declaration with `LOCAL` is read as a declaration: deployed,
the job reads back a robot target `q` that it does not declare. -/
theorem deployed_local_statement_read_as_target :
    let job : Job :=
      { blocks := [.moveL { setName := "p", speeds := [.level 100], zones := [.level 10] }
            [{ position := ⟨500, 0, 400⟩, orientation := ⟨0, 0, 1, 0⟩ }],
          .custom ["LOCAL CONST robtarget q:=[[1,2,3],[1,0,0,0],[0,0,0,0],[9E+09,9E+09,9E+09,9E+09,9E+09,9E+09]]"]] }
    job.targetData.robtargets.map (·.1) = ["p0"] ∧
      ∃ m sets, job.compile {} = .ok (m, sets) ∧
        ∀ (s : Station) (files : ProgramFiles) (handle : ControllerHandle), s.ReadyToDeploy →
          s.HoldsProgram files m.render →
          ∃ targets, (readTargetData handle mainModuleName (sendProgram handle files s).1).2 =
            .ok targets ∧ targets.robtargets.map (·.1) = ["p0", "q"] := by
  intro job
  -- the module, scanned and read as targets, once in the kernel
  have hread : ((job.compile {}).toOption.bind fun r =>
      (((Scan.declarations r.1.render.toList).map (DataItem.ofReading mainModuleName)).foldlM
        TargetData.add {}).toOption.map (·.robtargets.map (·.1))) = some ["p0", "q"] := by
    decide +kernel
  obtain ⟨⟨m, sets⟩, hjob⟩ :=
    Except.exists_ok_of_isOk (by decide +kernel : (job.compile {}).isOk = true)
  refine ⟨by decide +kernel, m, sets, hjob, fun s files handle hready hfiles => ?_⟩
  obtain ⟨-, htargets, -⟩ := sendProgram_reads_render hready hfiles handle
  rw [htargets]
  rw [hjob] at hread
  simp only [Except.toOption, Option.bind_some] at hread
  split at hread
  · rename_i targets htargets
    exact ⟨targets, htargets, by simpa using hread⟩
  · simp at hread

end RobotProgram
