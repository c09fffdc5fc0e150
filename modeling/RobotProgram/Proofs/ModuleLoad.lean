import Mathlib
import RobotProgram.Proofs.DeclaredNames
import RobotProgram.Proofs.ValueText
import RobotProgram.Controller.Deploy
/-!
# RobotProgram.Proofs.ModuleLoad

What a controller loads from the module of a compiled job, and what it reads back out of it.

The module opens with its `MODULE MainModule` header and ends with `ENDMODULE`, so it loads as
`MainModule`. The scanner reads its tools, its work objects, then the targets of its blocks,
block after block, each under the name its block generates for it and with the text it is
written with. Reading the targets back gives each robot target and joint target under its name
with the sign of zeros dropped and external axes at or above `9e9` unused; reading the tools and
work objects back gives each under its name with the frame it was declared with, zeros unsigned.

Main statements: `Job.declarations_render`, `scanModule_render`, `Job.foldlM_add_render` and
`Job.programDataEntries_render`.
-/

namespace RobotProgram

open Scan Text

/-! ## The targets a block declares -/

/-- What the scanner reads from the declaration of a target under a name: the target's type,
the name and the target's text. -/
def Target.reading (name : String) (t : Target) : String × String × String :=
  (t.dataType, name, t.text)

/-- Targets under the names a stem gives them by their places. -/
def indexedTargets (stem : String) (ts : List Target) : List (String × Target) :=
  ts.zipIdx.map fun (t, i) => (stem ++ toString i, t)

/-- The targets a block declares, in declaration order, each under the name the block gives it:
its set name and its place, and for circular moves the through-point after `cir` and the
destination after `to`. Free statements declare none. -/
def Block.targets : Block → List (String × Target)
  | .moveL m targets | .moveJ m targets => indexedTargets m.setName (targets.map .cartesian)
  | .moveAbsJ m targets => indexedTargets m.setName (targets.map .joint)
  | .moveC m via targets => (via.zip targets).zipIdx.flatMap fun ((v, d), i) =>
    [("cir" ++ m.setName ++ toString i, .cartesian v), ("to" ++ m.setName ++ toString i, .cartesian d)]
  | .custom _ => []

/-- The declarations of a set of moves are read as its targets under their indexed names. -/
theorem laidOut_indexedTargets {stem : String} (hstem : ∀ ch ∈ stem.toList, isWord ch = true)
    (ts : List Target) :
    LaidOut (String.join ((ts.zipIdx.map fun (t, i) => TargetCompiler.declarationAt stem t i).map
        Declaration.text))
      ((indexedTargets stem ts).map fun p => p.2.reading p.1) := by
  rw [List.map_map, indexedTargets, List.map_map]
  exact LaidOut.join_single fun x _ => laidOut_declarationAt hstem x.1 x.2

/-- The declarations of a set of circular moves are read as its through-points and destinations,
in turn, under their names. -/
theorem laidOut_circleTargets {setName : String} (hname : ∀ ch ∈ setName.toList, isWord ch = true)
    (via dests : List CartesianPose) :
    LaidOut (String.join (((via.zip dests).zipIdx.map fun ((v, d), i) =>
        TargetCompiler.circleDeclarationAt setName v d i).map Declaration.text))
      (((via.zip dests).zipIdx.flatMap fun ((v, d), i) =>
        [("cir" ++ setName ++ toString i, Target.cartesian v),
          ("to" ++ setName ++ toString i, Target.cartesian d)]).map fun p => p.2.reading p.1) := by
  rw [List.map_map, List.map_flatMap]
  exact LaidOut.join fun x _ => laidOut_circleDeclarationAt hname x.1.1 x.1.2 x.2

/-- A compiled block declares its targets under the names it gives them. -/
theorem Block.laidOut_declarations {c : TargetCompiler} {b : Block}
    (hstems : ∀ stem ∈ b.stems, ∀ ch ∈ stem.toList, isWord ch = true) {s : CompiledSet}
    (h : b.compile c = .ok s) :
    LaidOut (String.join s.declarationTexts) (b.targets.map fun p => p.2.reading p.1) := by
  cases b with
  | moveL m targets =>
    have hmoves : c.movesReference .moveL (targets.map .cartesian) m.speeds m.zones m.setName m.frames =
        .ok s := by
      rw [← TargetCompiler.compileMoves_eq_reference]
      exact h
    rw [TargetCompiler.movesReference_ok hmoves]
    exact laidOut_indexedTargets (hstems _ (by simp [Block.stems])) _
  | moveJ m targets =>
    have hmoves : c.movesReference .moveJ (targets.map .cartesian) m.speeds m.zones m.setName m.frames =
        .ok s := by
      rw [← TargetCompiler.compileMoves_eq_reference]
      exact h
    rw [TargetCompiler.movesReference_ok hmoves]
    exact laidOut_indexedTargets (hstems _ (by simp [Block.stems])) _
  | moveAbsJ m targets =>
    have hmoves : c.movesReference .moveAbsJ (targets.map .joint) m.speeds m.zones m.setName m.frames =
        .ok s := by
      rw [← TargetCompiler.compileMoves_eq_reference]
      exact h
    rw [TargetCompiler.movesReference_ok hmoves]
    exact laidOut_indexedTargets (hstems _ (by simp [Block.stems])) _
  | moveC m via targets =>
    have hcircles : c.circlesReference via targets m.speeds m.zones m.setName m.frames = .ok s := by
      rw [← TargetCompiler.moveC_eq_reference]
      exact h
    rw [TargetCompiler.circlesReference_ok hcircles]
    -- the set name is a word since the stem `cir` followed by it is
    have hcir := hstems ("cir" ++ m.setName) (by simp [Block.stems])
    exact laidOut_circleTargets (fun ch hch => hcir ch (by simp [String.toList_append, hch])) _ _
  | custom statements =>
    cases h
    exact LaidOut.empty

/-- The declarations of the sets of compiled blocks are read as the blocks' targets, block after
block. -/
theorem laidOut_blocks {c : TargetCompiler} {blocks : List Block} {sets : List CompiledSet}
    (hsets : List.Forall₂ (fun b s => b.compile c = .ok s) blocks sets)
    (hstems : ∀ stem ∈ blocks.flatMap Block.stems, ∀ ch ∈ stem.toList, isWord ch = true) :
    LaidOut (String.join (sets.flatMap CompiledSet.declarationTexts))
      ((blocks.flatMap Block.targets).map fun p => p.2.reading p.1) := by
  induction hsets with
  | nil => exact LaidOut.empty
  | @cons b s blocks sets hb _ ih =>
    rw [List.flatMap_cons, List.flatMap_cons, String.join_append, List.map_append]
    refine (Block.laidOut_declarations (fun stem hstem => hstems stem ?_) hb).append
      (ih fun stem hstem => hstems stem ?_)
    · exact List.mem_flatMap.2 ⟨b, List.mem_cons_self, hstem⟩
    · rw [List.flatMap_cons]
      exact List.mem_append_right _ hstem

/-- What the scanner reads from a compiled job: its tools, its work objects, then the targets of
its blocks, block after block, each under its generated name and with its text. -/
theorem Job.declarations_render {job : Job} {c : TargetCompiler} (hc : c.LineFree)
    (hscan : job.Scannable) {m : ProgramModule} {sets : List CompiledSet}
    (h : job.compile c = .ok (m, sets)) :
    declarations m.render.toList =
      job.tools.map (fun t => ("tooldata", t.name, Data.toolValue t.frame t.mass)) ++
        job.wobjs.map (fun w => ("wobjdata", w.name, Data.wobjValue w.frame)) ++
        (job.blocks.flatMap Block.targets).map fun p => p.2.reading p.1 := by
  obtain ⟨-, -, hdecls, hsets, -⟩ := Job.compile_ok h
  refine Scan.declarations_render (Job.laidOut_tools hscan.frameWords h)
    (Job.laidOut_wobjs hscan.frameWords h) ?_ (Job.laidOut_instructions hc hscan h)
  rw [hdecls]
  exact laidOut_blocks hsets hscan.stems

/-! ## Loading a rendered module -/

/-- A module header names the word after `MODULE`. -/
theorem headerAt_module {name : String} (hname : WordText name) (rest : String) :
    headerAt ("MODULE " ++ name ++ "\n" ++ rest).toList = some name := by
  have hchars : ("MODULE " ++ name ++ "\n" ++ rest).toList =
      "MODULE".toList ++ ' ' :: (name.toList ++ '\n' :: rest.toList) := by
    simp
  have hnewline : ∀ c ∈ ('\n' :: rest.toList).head?, isWord c = false := by
    simpa using (by decide +kernel : isWord '\n' = false)
  unfold headerAt
  rw [hchars, (by decide +kernel : WordText "MODULE").dropWhile, startsWith_append]
  simp only [Option.bind_eq_bind, Option.bind_some, blanks1_blank isBlank_space, hname.dropWhile,
    word1_append hname hnewline]
  rfl

/-- A rendered module ends with `ENDMODULE`. -/
theorem endModule_infix_render (m : ProgramModule) : "ENDMODULE".toList <:+: m.render.toList := by
  obtain ⟨front, hfront⟩ : ∃ front, m.render = front ++ "ENDMODULE\n" := ⟨_, rfl⟩
  rw [hfront, String.toList_append]
  exact ⟨front.toList, ['\n'], by simp⟩

/-- The data item a controller holds for a declaration read from a module. -/
def DataItem.ofReading (module : String) : String × String × String → DataItem
  | (dataType, name, value) => ⟨module, name, dataType, value⟩

/-- A rendered module loads as `MainModule`, holding what the scanner reads from it. -/
theorem scanModule_render (m : ProgramModule) :
    scanModule m.render =
      .ok ⟨mainModuleName, (declarations m.render.toList).map (DataItem.ofReading mainModuleName)⟩ := by
  obtain ⟨rest, hrest⟩ : ∃ rest, m.render = "MODULE " ++ mainModuleName ++ "\n" ++ rest := by
    unfold ProgramModule.render assemble
    simp only [String.append_assoc]
    exact ⟨_, rfl⟩
  have hheader : headerAt m.render.toList = some mainModuleName := by
    rw [hrest]
    exact headerAt_module (by decide +kernel) rest
  unfold scanModule
  dsimp only
  rw [Scan.lineStarts, List.findSome?_cons, hheader]
  dsimp only
  rw [if_pos (endModule_infix_render m)]
  rfl

/-! ## Reading the targets back -/

/-- Named targets as a controller reads them back, by kind and in order: each under its name,
with the sign of zeros dropped and external axes at or above `9e9` unused. -/
def TargetData.readBack (ts : List (String × Target)) : TargetData where
  robtargets := ts.filterMap fun
    | (name, .cartesian p) => some (name, p.readBack)
    | (_, .joint _) => none
  jointtargets := ts.filterMap fun
    | (name, .joint j) => some (name, j.readBack)
    | (_, .cartesian _) => none

/-- The targets a job declares, as a controller reads them back. -/
def Job.targetData (job : Job) : TargetData := TargetData.readBack (job.blocks.flatMap Block.targets)

namespace TargetData

/-- A target's declaration adds the target, read back, to the targets of its kind. -/
theorem add_reading (acc : TargetData) (module name : String) (t : Target) :
    acc.add (DataItem.ofReading module (t.reading name)) =
      .ok ⟨acc.robtargets ++ (readBack [(name, t)]).robtargets,
        acc.jointtargets ++ (readBack [(name, t)]).jointtargets⟩ := by
  cases t with
  | cartesian p =>
    have hparse := CartesianPose.parse_text p fun x _ => readFloat?_plainText x
    simp [add, DataItem.ofReading, Target.reading, Target.dataType, Target.text, hparse, readBack,
      bind, Except.bind, pure, Except.pure]
  | joint j =>
    have hparse := JointPose.parse_text j fun x _ => readFloat?_plainText x
    simp [add, DataItem.ofReading, Target.reading, Target.dataType, Target.text, hparse, readBack,
      bind, Except.bind, pure, Except.pure]

/-- Adding the declarations of targets, one after another, adds the targets read back. -/
theorem foldlM_add_readings (module : String) :
    ∀ (ts : List (String × Target)) (acc : TargetData),
      (ts.map fun p => DataItem.ofReading module (p.2.reading p.1)).foldlM add acc =
        .ok ⟨acc.robtargets ++ (readBack ts).robtargets, acc.jointtargets ++ (readBack ts).jointtargets⟩
  | [], acc => by simp [readBack, pure, Except.pure]
  | (name, t) :: ts, acc => by
    rw [List.map_cons, List.foldlM_cons, add_reading]
    simp only [bind, Except.bind]
    rw [foldlM_add_readings module ts]
    -- the targets read back from `(name, t) :: ts` are those of `(name, t)` and then of `ts`
    have hcons (t : Target) : readBack ((name, t) :: ts) =
        ⟨(readBack [(name, t)]).robtargets ++ (readBack ts).robtargets,
          (readBack [(name, t)]).jointtargets ++ (readBack ts).jointtargets⟩ := by
      cases t <;> simp [readBack]
    rw [hcons, List.append_assoc, List.append_assoc]

/-- Data items that are no targets add nothing. -/
theorem foldlM_add_of_not_target {items : List DataItem}
    (h : ∀ d ∈ items, d.dataType ≠ "robtarget" ∧ d.dataType ≠ "jointtarget") (acc : TargetData) :
    items.foldlM add acc = .ok acc := by
  induction items with
  | nil => rfl
  | cons d items ih =>
    obtain ⟨hrob, hjoint⟩ := h d List.mem_cons_self
    rw [List.foldlM_cons]
    have hadd : acc.add d = .ok acc := by
      simp [add, hrob, hjoint, pure, Except.pure]
    rw [hadd]
    exact ih fun d' hd' => h d' (List.mem_cons_of_mem d hd')

end TargetData

/-- Reading the targets back from the module of a compiled job gives the job's targets. -/
theorem Job.foldlM_add_render {job : Job} {c : TargetCompiler} (hc : c.LineFree)
    (hscan : job.Scannable) {m : ProgramModule} {sets : List CompiledSet}
    (h : job.compile c = .ok (m, sets)) :
    ((declarations m.render.toList).map (DataItem.ofReading mainModuleName)).foldlM TargetData.add {} =
      .ok job.targetData := by
  rw [Job.declarations_render hc hscan h, List.map_append, List.map_append, List.foldlM_append,
    List.foldlM_append]
  -- the tools and work objects are no targets
  have htools : ((job.tools.map fun t => ("tooldata", t.name, Data.toolValue t.frame t.mass)).map
      (DataItem.ofReading mainModuleName)).foldlM TargetData.add {} = .ok {} :=
    TargetData.foldlM_add_of_not_target (by simp [DataItem.ofReading]) {}
  have hwobjs : ((job.wobjs.map fun w => ("wobjdata", w.name, Data.wobjValue w.frame)).map
      (DataItem.ofReading mainModuleName)).foldlM TargetData.add {} = .ok {} :=
    TargetData.foldlM_add_of_not_target (by simp [DataItem.ofReading]) {}
  rw [htools]
  dsimp only [bind, Except.bind]
  rw [hwobjs]
  dsimp only [bind, Except.bind]
  rw [List.map_map]
  exact TargetData.foldlM_add_readings mainModuleName _ {}

/-! ## Reading the tools and work objects back -/

/-- The frame of a tool or a work object taken from a pose: its position and orientation. -/
def CartesianPose.asFrame (p : CartesianPose) : CartesianPose :=
  { position := p.position, orientation := p.orientation }

/-- The load of a tool of the given mass: its centre of gravity 1 µm along `z`, its axes of moment
the frame's, no inertia. -/
def Data.toolLoad (mass : Float) : LoadData := ⟨mass, ⟨0, 0, 0.001⟩, ⟨1, 0, 0, 0⟩, 0, 0, 0⟩

/-- The tool a tool declaration declares: held by the robot, with the frame of its pose and the
load of its mass. -/
def FrameDeclaration.toolData (t : FrameDeclaration) : ToolData :=
  ⟨true, t.frame.asFrame, Data.toolLoad t.mass⟩

/-- The work object a work object declaration declares: fixed, with a programmed user frame on no
mechanical unit, the frame of its pose as user frame, and no object frame offset. -/
def FrameDeclaration.wobjData (w : FrameDeclaration) : WobjData :=
  ⟨false, true, "", w.frame.asFrame, ⟨⟨0, 0, 0⟩, ⟨1, 0, 0, 0⟩, {}, {}⟩⟩

/-- The tools and work objects a job declares, as a controller reads them back: each under its
name, with the position and orientation of the frame it was declared with and the numbers of its
load, zeros unsigned. -/
def Job.programData (job : Job) : List ProgramDataEntry :=
  job.tools.map (fun t => ⟨"tooldata", t.name, (DataValue.tooldata t.toolData).unsignZeros⟩) ++
    job.wobjs.map fun w => ⟨"wobjdata", w.name, (DataValue.wobjdata w.wobjData).unsignZeros⟩

theorem FrameDeclaration.text_toolData (t : FrameDeclaration) :
    (DataValue.tooldata t.toolData).text = Data.toolValue t.frame t.mass := by
  have hcog : numberListText [0, 0, 0.001] = "[0,0,0.001]" := by decide +kernel
  have haom : numberListText [1, 0, 0, 0] = "[1,0,0,0]" := by decide +kernel
  have hzero : numberText 0 = "0" := by decide +kernel
  -- unfolded rather than rewritten: the equation lemmas of these texts are slow to produce
  unfold DataValue.text
  dsimp only
  unfold LoadData.text Data.toolValue
  apply String.ext
  simp [toolData, Data.toolLoad, CartesianPose.asFrame,
    CartesianPose.frameText, Position.toList, Quaternion.toList, boolText, hcog, haom, hzero]

theorem FrameDeclaration.text_wobjData (w : FrameDeclaration) :
    (DataValue.wobjdata w.wobjData).text = Data.wobjValue w.frame := by
  have horigin : numberListText [0, 0, 0] = "[0,0,0]" := by decide +kernel
  have haxes : numberListText [1, 0, 0, 0] = "[1,0,0,0]" := by decide +kernel
  unfold DataValue.text
  dsimp only
  unfold Data.wobjValue
  apply String.ext
  simp [wobjData, CartesianPose.asFrame, CartesianPose.frameText,
    Position.toList, Quaternion.toList, boolText, horigin, haxes]

/-- A declared tool is read back as its tool, zeros unsigned. -/
theorem parseAs_toolValue (t : FrameDeclaration) :
    DataValue.parseAs "tooldata" (Data.toolValue t.frame t.mass) =
      .ok (DataValue.tooldata t.toolData).unsignZeros := by
  have hparse := DataValue.parse_text (v := .tooldata t.toolData) ⟨rfl, rfl⟩
  rw [FrameDeclaration.text_toolData] at hparse
  simp [DataValue.parseAs, hparse, DataValue.unsignZeros, DataValue.fits, DataValue.dataType, bind,
    Except.bind, pure, Except.pure]

/-- A declared work object is read back as its work object, zeros unsigned. -/
theorem parseAs_wobjValue (w : FrameDeclaration) :
    DataValue.parseAs "wobjdata" (Data.wobjValue w.frame) =
      .ok (DataValue.wobjdata w.wobjData).unsignZeros := by
  have hparse := DataValue.parse_text (v := .wobjdata w.wobjData) ⟨by simp [FrameDeclaration.wobjData],
    ⟨rfl, rfl⟩, ⟨rfl, rfl⟩⟩
  rw [FrameDeclaration.text_wobjData] at hparse
  simp [DataValue.parseAs, hparse, DataValue.unsignZeros, DataValue.fits, DataValue.dataType, bind,
    Except.bind, pure, Except.pure]

/-- A walk that gives every element a value of a function gives the list of values. -/
theorem mapM_eq_ok_map {α β ε : Type} {f : α → Except ε β} {g : α → β} :
    ∀ {l : List α}, (∀ x ∈ l, f x = .ok (g x)) → l.mapM f = .ok (l.map g)
  | [], _ => rfl
  | x :: l, h => by
    rw [List.mapM_cons, h x List.mem_cons_self,
      mapM_eq_ok_map fun y hy => h y (List.mem_cons_of_mem x hy)]
    rfl

/-- Reading the tools and work objects back from the module of a compiled job gives the job's
tools and work objects. -/
theorem Job.programDataEntries_render {job : Job} {c : TargetCompiler} (hc : c.LineFree)
    (hscan : job.Scannable) {m : ProgramModule} {sets : List CompiledSet}
    (h : job.compile c = .ok (m, sets)) :
    programDataEntries ((declarations m.render.toList).map (DataItem.ofReading mainModuleName)) =
      .ok job.programData := by
  rw [Job.declarations_render hc hscan h]
  -- the targets are filtered out, the tools and work objects kept
  have htargets : List.filter (fun d => d.dataType == "tooldata" || d.dataType == "wobjdata")
      (((job.blocks.flatMap Block.targets).map fun p => p.2.reading p.1).map
        (DataItem.ofReading mainModuleName)) = [] := by
    simp only [List.filter_eq_nil_iff, List.mem_map]
    rintro _ ⟨_, ⟨⟨name, t⟩, -, rfl⟩, rfl⟩
    cases t <;> simp [DataItem.ofReading, Target.reading, Target.dataType]
  unfold programDataEntries
  rw [List.map_append, List.map_append, List.filter_append, List.filter_append, htargets,
    List.append_nil, List.filter_eq_self.2 (by simp [DataItem.ofReading]),
    List.filter_eq_self.2 (by simp [DataItem.ofReading])]
  rw [List.map_map, List.map_map, List.mapM_append, List.mapM_map, List.mapM_map,
    mapM_eq_ok_map (g := fun t => ⟨"tooldata", t.name, (DataValue.tooldata t.toolData).unsignZeros⟩)
      fun t _ => by simp [DataItem.ofReading, parseAs_toolValue, bind, Except.bind, pure, Except.pure],
    mapM_eq_ok_map (g := fun w => ⟨"wobjdata", w.name, (DataValue.wobjdata w.wobjData).unsignZeros⟩)
      fun w _ => by simp [DataItem.ofReading, parseAs_wobjValue, bind, Except.bind, pure, Except.pure]]
  rfl

end RobotProgram
