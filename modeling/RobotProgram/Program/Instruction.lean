import RobotProgram.Error
import RobotProgram.Text.Json
/-!
# RobotProgram.Program.Instruction

The pieces a program is assembled from. A compiled set pairs data declarations (the targets
and numbers a set of moves refers to) with the instructions that use them; the `index` of a
declaration and of its instruction is the position of the target in the set.

Every piece of text starts with a line break and its indentation: one tab for a declaration at
module level, two for an instruction inside a routine.

The manifest of a compilation: every compiled set as JSON, in the order the sets were compiled.
A declaration is `index`, `names`, `text`; an instruction is `index`, `opcode`, `speed`, `zone`
(`null` where the instruction takes none) and `text`. The manifest text is the indented form.
-/

namespace RobotProgram

/-- The instruction an entry of a compiled set performs. -/
inductive Opcode where
  | moveL
  | moveJ
  | moveAbsJ
  | moveC
  | indAMove
  | indReset
  | custom
deriving Repr, DecidableEq, Inhabited

/-- The name of an opcode as a program writes it. -/
def Opcode.name : Opcode → String
  | .moveL => "MoveL"
  | .moveJ => "MoveJ"
  | .moveAbsJ => "MoveAbsJ"
  | .moveC => "MoveC"
  | .indAMove => "IndAMove"
  | .indReset => "IndReset"
  | .custom => "Custom"

/-- A data declaration, with the names it declares. -/
structure Declaration where
  index : Nat
  names : List String
  text : String
deriving Repr, Inhabited

/-- An instruction, with the speed and zone symbols it uses if it moves. -/
structure Instruction where
  index : Nat
  opcode : Opcode
  speed : Option String
  zone : Option String
  text : String
deriving Repr, Inhabited

/-- Declarations and instructions produced together. -/
structure CompiledSet where
  declarations : List Declaration := []
  instructions : List Instruction := []
deriving Repr, Inhabited

namespace CompiledSet

def declarationTexts (s : CompiledSet) : List String := s.declarations.map (·.text)

def instructionTexts (s : CompiledSet) : List String := s.instructions.map (·.text)

end CompiledSet

/-- The tool and work object a move uses. -/
structure Frames where
  tool : String := "tool0"
  wobj : String := "wobj0"
deriving Repr, Inhabited

/-- A statement inside a routine: a new line, two tabs, the body and a semicolon. -/
def statement (body : String) : String := "\n\t\t" ++ body ++ ";"

/-- A declaration as JSON. -/
def Declaration.toJson (d : Declaration) : Json :=
  .obj [("index", .int d.index), ("names", .arr (d.names.map .str)), ("text", .str d.text)]

/-- An instruction as JSON. -/
def Instruction.toJson (i : Instruction) : Json :=
  let symbol : Option String → Json := fun | some s => .str s | none => .null
  .obj [("index", .int i.index), ("opcode", .str i.opcode.name), ("speed", symbol i.speed),
    ("zone", symbol i.zone), ("text", .str i.text)]

/-- A compiled set as JSON. -/
def CompiledSet.toJson (s : CompiledSet) : Json :=
  .obj [("declarations", .arr (s.declarations.map Declaration.toJson)),
    ("instructions", .arr (s.instructions.map Instruction.toJson))]

/-- The manifest text of the compiled sets. -/
def manifestText (sets : List CompiledSet) : String :=
  (Json.arr (sets.map CompiledSet.toJson)).pretty 0

end RobotProgram
