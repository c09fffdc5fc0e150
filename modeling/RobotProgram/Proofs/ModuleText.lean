import Mathlib
import RobotProgram.Proofs.ModuleScan
import RobotProgram.Proofs.Compilation
import RobotProgram.Proofs.LiteralText
import RobotProgram.Program.Data
import RobotProgram.Program.Module
/-!
# RobotProgram.Proofs.ModuleText

What the scanner reads from a rendered module. The writer lays a module out in whole lines:
the fixed frame of `assemble` (comments, routine headers and calls), and the pieces a module is
built from, each a run of lines opened by line breaks (`LaidOut`). Target data, tools and work
objects are declaration lines whose values are written without blanks (`Blankless`); the
instructions of compiled moves open with an instruction word, so they declare nothing as long as
each stays on its line.

Main statements:
* `declarations_render`: the declarations found in a rendered module are those of its tools,
  its work objects and its target data, in this order, when its pieces are laid out and its
  instructions declare nothing.
* `laidOut_declarationAt`, `laidOut_circleDeclarationAt`: each declaration of a set of
  compiled moves is read as its target's type, its generated name and its target's text.
* `laidOut_tool`, `laidOut_wobj`: each tool and work object is read as its name and its value.
-/

namespace RobotProgram

namespace Text

/-! ## Texts without blanks -/

/-- A text with no blank in it. -/
def Blankless (s : String) : Prop := ∀ c ∈ s.toList, isBlank c = false

instance : DecidablePred Blankless := fun s =>
  decidable_of_iff ((s.toList.all fun c => !isBlank c) = true) (by simp [Blankless])

namespace Blankless

theorem append {s t : String} (hs : Blankless s) (ht : Blankless t) : Blankless (s ++ t) := by
  intro c hc
  rw [String.toList_append, List.mem_append] at hc
  exact hc.elim (hs c) (ht c)

theorem intercalate {sep : String} (hsep : Blankless sep) :
    ∀ {ss : List String}, (∀ s ∈ ss, Blankless s) → Blankless (sep.intercalate ss)
  | [], _ => by simp [Blankless]
  | [s], h => by simpa using h s (by simp)
  | s :: s' :: ss, h => by
    rw [String.intercalate_cons_cons]
    exact ((h s (by simp)).append hsep).append
      (intercalate hsep fun t ht => h t (List.mem_cons_of_mem s ht))

theorem numberText (x : Float) : Blankless (numberText x) := fun c hc =>
  ((Literal.Token.number x).plain c hc).2

theorem intText (n : Int) : Blankless (toString n) := fun c hc =>
  ((Literal.Token.integer n).plain c hc).2

/-- A text without blanks stays on its line. -/
theorem newline_not_mem {s : String} (h : Blankless s) : '\n' ∉ s.toList := fun hc => by
  simpa using h '\n' hc

/-- Trimming keeps a text without blanks. -/
theorem trimBlank_eq {s : String} (h : Blankless s) : trimBlank s = s := by
  simp [trimBlank, trimBlankList_of_plain h]

end Blankless

/-! ## Texts on one line -/

/-- A text with no line break in it. -/
def LineFree (s : String) : Prop := '\n' ∉ s.toList

instance : DecidablePred LineFree := fun s => inferInstanceAs (Decidable ('\n' ∉ s.toList))

theorem lineFree_append {s t : String} : LineFree (s ++ t) ↔ LineFree s ∧ LineFree t := by
  simp [LineFree, not_or]

namespace LineFree

theorem of_blankless {s : String} (h : Blankless s) : LineFree s := h.newline_not_mem

/-- A text of word characters stays on its line, a line break being a blank. -/
theorem of_word {s : String} (h : ∀ c ∈ s.toList, isWord c = true) : LineFree s := fun hc => by
  simpa using isBlank_eq_false_of_isWord (h '\n' hc)

end LineFree

end Text

open Text

/-! ## Pose texts have no blanks -/

theorem numberListText_blankless (xs : List Float) : Blankless (numberListText xs) := by
  unfold numberListText
  refine ((by decide : Blankless "[").append (Blankless.intercalate (by decide) ?_)).append
    (by decide)
  simpa using fun x _ => Blankless.numberText x

theorem ArmConfiguration.text_blankless (c : ArmConfiguration) : Blankless c.text := by
  unfold ArmConfiguration.text
  refine ((by decide : Blankless "[").append (Blankless.intercalate (by decide) ?_)).append
    (by decide)
  simpa using fun (n : Int32) _ => Blankless.intText n.toInt

theorem ExternalAxes.text_blankless (e : ExternalAxes) : Blankless e.text := by
  unfold ExternalAxes.text
  refine ((by decide : Blankless "[").append (Blankless.intercalate (by decide) ?_)).append
    (by decide)
  simp only [List.mem_map]
  rintro s ⟨a, -, rfl⟩
  cases a with
  | some v => exact Blankless.numberText v
  | none => decide

theorem CartesianPose.text_blankless (p : CartesianPose) : Blankless p.text := by
  unfold CartesianPose.text
  exact ((((((((by decide : Blankless "[").append (numberListText_blankless _)).append
    (by decide)).append (numberListText_blankless _)).append (by decide)).append
    p.config.text_blankless).append (by decide)).append p.external.text_blankless).append
    (by decide)

theorem CartesianPose.frameText_blankless (p : CartesianPose) : Blankless p.frameText := by
  unfold CartesianPose.frameText
  exact ((((by decide : Blankless "[").append (numberListText_blankless _)).append
    (by decide)).append (numberListText_blankless _)).append (by decide)

theorem JointPose.text_blankless (j : JointPose) : Blankless j.text := by
  unfold JointPose.text
  exact ((((by decide : Blankless "[").append (numberListText_blankless _)).append
    (by decide)).append j.external.text_blankless).append (by decide)

theorem Target.text_blankless (t : Target) : Blankless t.text := by
  cases t with
  | cartesian p => exact p.text_blankless
  | joint j => exact j.text_blankless

namespace Scan

/-! ## Laid-out pieces -/

/-- A piece of module text laid out in whole lines, each opened by a line break, from which the
scanner reads `ds`. -/
def LaidOut (piece : String) (ds : List (String × String × String)) : Prop :=
  ∃ ls : List Line, piece.toList = linesText ls ∧ (∀ l ∈ ls, l.Laid) ∧ ls.flatMap Line.reads = ds

namespace LaidOut

theorem empty : LaidOut "" [] := ⟨[], rfl, by simp, rfl⟩

theorem line {l : Line} (hl : l.Laid) : LaidOut ("\n" ++ l.text) l.reads :=
  ⟨[l], by simp, by simpa using hl, by simp⟩

theorem append {p₁ p₂ : String} {d₁ d₂ : List (String × String × String)} (h₁ : LaidOut p₁ d₁)
    (h₂ : LaidOut p₂ d₂) : LaidOut (p₁ ++ p₂) (d₁ ++ d₂) := by
  obtain ⟨ls₁, hp₁, hl₁, hd₁⟩ := h₁
  obtain ⟨ls₂, hp₂, hl₂, hd₂⟩ := h₂
  refine ⟨ls₁ ++ ls₂, ?_, ?_, ?_⟩
  · rw [String.toList_append, hp₁, hp₂, linesText_append]
  · simpa using fun l hl => (hl.elim (hl₁ l) (hl₂ l))
  · rw [List.flatMap_append, hd₁, hd₂]

/-- Pieces laid out one after another. -/
theorem join {α : Type} {xs : List α} {text : α → String}
    {reads : α → List (String × String × String)} (h : ∀ x ∈ xs, LaidOut (text x) (reads x)) :
    LaidOut (String.join (xs.map text)) (xs.flatMap reads) := by
  induction xs with
  | nil => exact empty
  | cons x xs ih =>
    rw [List.map_cons, String.join_cons, List.flatMap_cons]
    exact (h x (by simp)).append (ih fun y hy => h y (List.mem_cons_of_mem x hy))

end LaidOut

/-! ## The frame of a module -/

/-- A line of the frame, which opens no declaration. -/
abbrev framed (text : String) : Line := .plain text

/-- The lines of a rendered module after its header, around the lines of its pieces. -/
def frameLines (tools wobjs declarations instructions : List Line) : List Line :=
  [framed "\t! Program data", framed ""] ++ tools ++ [framed ""] ++ wobjs ++
    [framed "", framed "\t! Target data"] ++ declarations ++
    [framed "", framed "\t! Routine", framed "\tPROC main()", framed "\t\tConfL\\Off;",
      framed "\t\tSingArea\\Wrist;", framed "\t\trStart;", framed "\t\tRETURN;",
      framed "\tENDPROC", framed "", framed "\tPROC rStart()", framed "",
      framed "\t\t! instructions"] ++ instructions ++
    [framed "\t\tRETURN;", framed "\tENDPROC", framed "", framed "ENDMODULE", framed ""]

set_option maxRecDepth 4000 in
/-- A rendered module is its header line, then the lines of its frame and pieces. -/
theorem render_toList {m : ProgramModule} {tools wobjs declarations instructions : List Line}
    (htools : (String.join m.tools).toList = linesText tools)
    (hwobjs : (String.join m.wobjs).toList = linesText wobjs)
    (hdeclarations : (String.join m.declarations).toList = linesText declarations)
    (hinstructions : (String.join m.instructions).toList = linesText instructions) :
    m.render.toList = "MODULE MainModule".toList ++
      linesText (frameLines tools wobjs declarations instructions) := by
  unfold ProgramModule.render assemble
  simp only [String.toList_append, htools, hwobjs, hdeclarations, hinstructions, frameLines,
    linesText_append, linesText_cons, linesText_nil, Line.text, mainModuleName]
  simp only [String.reduceToList, List.append_assoc, List.cons_append, List.nil_append,
    List.append_nil]

/-- What the scanner reads from a rendered module whose pieces are laid out and whose
instructions declare nothing: its tools, its work objects and its target data, in order. -/
theorem declarations_render {m : ProgramModule} {tools wobjs targets : List (String × String × String)}
    (htools : LaidOut (String.join m.tools) tools) (hwobjs : LaidOut (String.join m.wobjs) wobjs)
    (htargets : LaidOut (String.join m.declarations) targets)
    (hinstructions : LaidOut (String.join m.instructions) []) :
    declarations m.render.toList = tools ++ wobjs ++ targets := by
  obtain ⟨lt, ht, hlt, rfl⟩ := htools
  obtain ⟨lw, hw, hlw, rfl⟩ := hwobjs
  obtain ⟨ld, hd, hld, rfl⟩ := htargets
  obtain ⟨li, hi, hli, hri⟩ := hinstructions
  -- the lines of the frame open no declaration
  have hframe : ∀ l ∈ frameLines lt lw ld li, l.Laid := by
    simp only [frameLines, List.forall_mem_append, List.forall_mem_cons, List.not_mem_nil,
      IsEmpty.forall_iff, implies_true, and_true]
    and_intros
    all_goals first
      | assumption
      | decide
  have hheader : (framed "MODULE MainModule").Laid := by
    show Inert _
    decide
  rw [render_toList ht hw hd hi, show "MODULE MainModule".toList =
    (framed "MODULE MainModule").text.toList from rfl,
    declarations_line hheader (atLineEnd_linesText _), declarations_linesText _ hframe]
  simp [frameLines, Line.reads, hri]

/-! ## Generated names -/

theorem isWord_of_isDigit {c : Char} (h : c.isDigit = true) : isWord c = true := by
  have hdigits : ∀ n < 10, inTable wordRanges (48 + n) = true := by decide +kernel
  simp only [Char.isDigit, Bool.and_eq_true, decide_eq_true_eq] at h
  have hlo : 48 ≤ c.toNat := by simpa [UInt32.le_iff_toNat_le] using h.1
  have hhi : c.toNat ≤ 57 := by simpa [UInt32.le_iff_toNat_le] using h.2
  have hword := hdigits (c.toNat - 48) (by omega)
  rwa [Nat.add_sub_cancel' hlo] at hword

theorem toList_toString_nat (i : Nat) : (toString i).toList = Nat.toDigits 10 i := by
  simp [Nat.repr]

/-- A stem of word characters followed by an index is a name the scanner reads whole. -/
theorem WordText.indexed {stem : String} (hstem : ∀ c ∈ stem.toList, isWord c = true) (i : Nat) :
    WordText (stem ++ toString i) := by
  refine ⟨by simp [Nat.toDigits_ne_nil], fun c hc => ?_⟩
  rw [String.toList_append, List.mem_append, toList_toString_nat] at hc
  exact hc.elim (hstem c) fun hd =>
    isWord_of_isDigit (Nat.isDigit_of_mem_toDigits (by decide) (by decide) hd)

/-- An index stays on its line. -/
theorem lineFree_toString (i : Nat) : LineFree (toString i) := LineFree.of_word fun c hc => by
  rw [toList_toString_nat] at hc
  exact isWord_of_isDigit (Nat.isDigit_of_mem_toDigits (by decide) (by decide) hc)

/-- Word characters of a fixed word, then word characters. -/
theorem isWord_append {w s : String} (hw : (w.toList.all isWord) = true)
    (hs : ∀ c ∈ s.toList, isWord c = true) : ∀ c ∈ (w ++ s).toList, isWord c = true := by
  intro c hc
  rw [String.toList_append, List.mem_append] at hc
  exact hc.elim (fun hc => List.all_eq_true.1 hw c hc) (hs c)

end Scan

open Scan

theorem Target.dataType_wordText (t : Target) : WordText t.dataType := by
  cases t with
  | cartesian p =>
    show WordText "robtarget"
    decide +kernel
  | joint j =>
    show WordText "jointtarget"
    decide +kernel

/-! ## The declarations of compiled sets -/

/-- A declaration line read as its type, its name and its value, which has no blanks. -/
theorem laidOut_declarationLine {d : DeclarationLine} (hd : d.Laid) (hvalue : Blankless d.value) :
    LaidOut ("\n" ++ d.text) [(d.dataType, d.name, d.value)] := by
  have hline := @LaidOut.line (.declaration d) hd
  rwa [Line.reads, DeclarationLine.read, hvalue.trimBlank_eq] at hline

/-- A target declared by a set of moves is read as its type, its generated name and its
text. -/
theorem laidOut_declarationAt {setName : String} (hname : ∀ c ∈ setName.toList, isWord c = true)
    (t : Target) (i : Nat) :
    LaidOut (TargetCompiler.declarationAt setName t i).text
      [(t.dataType, setName ++ toString i, t.text)] := by
  have htext : (TargetCompiler.declarationAt setName t i).text =
      "\n" ++ (DeclarationLine.mk "CONST" t.dataType (setName ++ toString i) t.text).text := by
    apply String.ext
    simp [TargetCompiler.declarationAt, DeclarationLine.text]
  rw [htext]
  exact laidOut_declarationLine ⟨by simp [DeclarationLine.storages], t.dataType_wordText,
    WordText.indexed hname i, t.text_blankless.newline_not_mem⟩ t.text_blankless

/-- A through-point and a destination declared by a set of circular moves are read as robot
targets with their generated names and texts. -/
theorem laidOut_circleDeclarationAt {setName : String}
    (hname : ∀ c ∈ setName.toList, isWord c = true) (via dest : CartesianPose) (i : Nat) :
    LaidOut (TargetCompiler.circleDeclarationAt setName via dest i).text
      [("robtarget", "cir" ++ setName ++ toString i, via.text),
        ("robtarget", "to" ++ setName ++ toString i, dest.text)] := by
  have hcir : ∀ c ∈ ("cir" ++ setName).toList, isWord c = true :=
    isWord_append (by decide +kernel) hname
  have htext : (TargetCompiler.circleDeclarationAt setName via dest i).text =
      ("\n" ++ (DeclarationLine.mk "CONST" "robtarget" ("cir" ++ setName ++ toString i)
        via.text).text) ++
      ("\n" ++ (DeclarationLine.mk "CONST" "robtarget" ("to" ++ setName ++ toString i)
        dest.text).text) := by
    apply String.ext
    simp [TargetCompiler.circleDeclarationAt, DeclarationLine.text]
  have hto : ∀ c ∈ ("to" ++ setName).toList, isWord c = true :=
    isWord_append (by decide +kernel) hname
  have hrobtarget : WordText "robtarget" := by decide +kernel
  have hcirLine := @laidOut_declarationLine ⟨"CONST", "robtarget",
      "cir" ++ setName ++ toString i, via.text⟩ ⟨by simp [DeclarationLine.storages], hrobtarget,
      WordText.indexed hcir i, via.text_blankless.newline_not_mem⟩ via.text_blankless
  have htoLine := @laidOut_declarationLine ⟨"CONST", "robtarget",
      "to" ++ setName ++ toString i, dest.text⟩ ⟨by simp [DeclarationLine.storages], hrobtarget,
      WordText.indexed hto i, dest.text_blankless.newline_not_mem⟩ dest.text_blankless
  rw [htext]
  exact hcirLine.append htoLine

/-! ## Tools and work objects -/

/-- The value a tool is declared with: held, with the frame of the pose, and a load of the
given mass. -/
def Data.toolValue (frame : CartesianPose) (mass : Float) : String :=
  "[TRUE," ++ frame.frameText ++ ",[" ++ numberText mass ++ ",[0,0,0.001],[1,0,0,0],0,0,0]]"

/-- The value a work object is declared with: fixed, with the frame of the pose as its user
frame. -/
def Data.wobjValue (frame : CartesianPose) : String :=
  "[FALSE,TRUE,\"\"," ++ frame.frameText ++ ",[[0,0,0],[1,0,0,0]]]"

theorem Data.toolValue_blankless (frame : CartesianPose) (mass : Float) :
    Blankless (Data.toolValue frame mass) :=
  ((((by decide : Blankless "[TRUE,").append frame.frameText_blankless).append
    (by decide)).append (Blankless.numberText mass)).append (by decide)

theorem Data.wobjValue_blankless (frame : CartesianPose) : Blankless (Data.wobjValue frame) :=
  (((by decide : Blankless "[FALSE,TRUE,\"\",").append frame.frameText_blankless)).append
    (by decide)

/-- A tool is read as its name and the value it is declared with. -/
theorem laidOut_tool {name : String} (hname : WordText name) (frame : CartesianPose)
    (mass : Float) :
    LaidOut (Data.tool name frame mass) [("tooldata", name, Data.toolValue frame mass)] := by
  have htext : Data.tool name frame mass =
      "\n" ++ (DeclarationLine.mk "PERS" "tooldata" name (Data.toolValue frame mass)).text := by
    apply String.ext
    unfold Data.tool Data.toolValue DeclarationLine.text
    simp only [String.toList_append, String.reduceToList, List.append_assoc, List.cons_append,
      List.nil_append]
  rw [htext]
  exact laidOut_declarationLine ⟨by simp [DeclarationLine.storages],
    (by decide +kernel : WordText "tooldata"), hname,
    (Data.toolValue_blankless frame mass).newline_not_mem⟩ (Data.toolValue_blankless frame mass)

/-- A work object is read as its name and the value it is declared with. -/
theorem laidOut_wobj {name : String} (hname : WordText name) (frame : CartesianPose) :
    LaidOut (Data.wobj name frame) [("wobjdata", name, Data.wobjValue frame)] := by
  have htext : Data.wobj name frame =
      "\n" ++ (DeclarationLine.mk "TASK PERS" "wobjdata" name (Data.wobjValue frame)).text := by
    apply String.ext
    unfold Data.wobj Data.wobjValue DeclarationLine.text
    simp only [String.toList_append, String.reduceToList, List.append_assoc, List.cons_append,
      List.nil_append]
  rw [htext]
  exact laidOut_declarationLine ⟨by simp [DeclarationLine.storages],
    (by decide +kernel : WordText "wobjdata"), hname,
    (Data.wobjValue_blankless frame).newline_not_mem⟩ (Data.wobjValue_blankless frame)

/-! ## Instructions -/

/-- An instruction that opens with the name of a move declares nothing, as long as it stays on
its line. -/
theorem laidOut_move {op : Opcode} (hop : op ≠ .custom) {rest : String} (hrest : LineFree rest) :
    LaidOut ("\n\t\t" ++ op.name ++ rest) [] := by
  obtain ⟨c, cs, hname, hc, hblank⟩ : ∃ c cs, op.name.toList = c :: cs ∧
      (∀ k ∈ keywords, k.toList.head? ≠ some c) ∧ isBlank c = false := by
    cases op <;> first | exact absurd rfl hop | exact ⟨_, _, rfl, by decide, by decide⟩
  have hnl : LineFree (op.name ++ rest) :=
    lineFree_append.2 ⟨by cases op <;> decide, hrest⟩
  have hinert : Inert ("\t\t" ++ op.name ++ rest).toList := by
    have hchars : ("\t\t" ++ op.name ++ rest).toList = '\t' :: '\t' :: c :: (cs ++ rest.toList) := by
      simp [hname]
    rw [hchars]
    refine @Inert.of_head _ (cs ++ rest.toList) c ?_ hc (by simpa [LineFree, hname] using hnl)
    rw [List.dropWhile_cons_of_pos (by simp), List.dropWhile_cons_of_pos (by simp),
      List.dropWhile_cons_of_neg (by simp [hblank])]
  have htext : "\n\t\t" ++ op.name ++ rest = "\n" ++ ("\t\t" ++ op.name ++ rest) := by
    apply String.ext
    simp
  rw [htext]
  exact @LaidOut.line (.plain ("\t\t" ++ op.name ++ rest)) hinert

/-- A free statement declares nothing when its body opens no declaration. -/
theorem laidOut_statement {body : String} (h : Inert body.toList) : LaidOut (statement body) [] := by
  obtain ⟨hnl, hkeywords⟩ := h
  have hchars : ("\t\t" ++ body ++ ";").toList = '\t' :: '\t' :: (body.toList ++ [';']) := by
    simp
  have hinert : Inert ("\t\t" ++ body ++ ";").toList := by
    rw [hchars]
    refine ⟨by simpa using hnl, fun k hk => ?_⟩
    rw [List.dropWhile_cons_of_pos (by simp), List.dropWhile_cons_of_pos (by simp),
      List.dropWhile_append]
    split
    · -- a blank body: only the `;` is left
      rw [List.dropWhile_cons_of_neg (by simp)]
      revert k
      decide
    · have hsemicolon : ';' ∉ k.toList := by
        revert k
        decide
      exact not_prefix_append (hkeywords k hk) hsemicolon (by simp)
  have htext : statement body = "\n" ++ ("\t\t" ++ body ++ ";") := by
    apply String.ext
    simp [statement]
  rw [htext]
  exact @LaidOut.line (.plain ("\t\t" ++ body ++ ";")) hinert

end RobotProgram
