import RobotProgram.Program.Instruction
/-!
# RobotProgram.Program.Module

A program module and the program descriptor that lists module files.

The module text is a fixed frame: a `MainModule` whose data section holds the tool and work
object declarations, then the target data; a routine `main` that sets the configuration and
singularity handling and calls `rStart`; and `rStart`, which holds the instructions. The
pieces are concatenated as given, each carrying its own line break and indentation.
-/

namespace RobotProgram

/-- The name of the generated module. -/
def mainModuleName : String := "MainModule"

/-- The text of a module from its pieces: declarations, instructions, tools, work objects. -/
def assemble (declarations instructions tools wobjs : List String) : String :=
  "MODULE " ++ mainModuleName ++ "\n" ++
  "\t! Program data\n" ++
  String.join tools ++ "\n" ++
  String.join wobjs ++ "\n" ++
  "\n\t! Target data" ++ String.join declarations ++ "\n" ++
  "\n" ++
  "\t! Routine\n" ++
  "\tPROC main()\n" ++
  "\t\tConfL\\Off;\n" ++
  "\t\tSingArea\\Wrist;\n" ++
  "\t\trStart;\n" ++
  "\t\tRETURN;\n" ++
  "\tENDPROC\n" ++
  "\n" ++
  "\tPROC rStart()\n" ++
  "\n" ++
  "\t\t! instructions" ++ String.join instructions ++ "\n" ++
  "\t\tRETURN;\n" ++
  "\tENDPROC\n" ++
  "\n" ++
  "ENDMODULE\n"

/-- A module being built: tool, work object and target declarations, and instructions. -/
structure ProgramModule where
  tools : List String := []
  wobjs : List String := []
  declarations : List String := []
  instructions : List String := []
deriving Repr, Inhabited

namespace ProgramModule

def addTool (m : ProgramModule) (text : String) : ProgramModule :=
  { m with tools := m.tools ++ [text] }

def addWobj (m : ProgramModule) (text : String) : ProgramModule :=
  { m with wobjs := m.wobjs ++ [text] }

def addDeclaration (m : ProgramModule) (text : String) : ProgramModule :=
  { m with declarations := m.declarations ++ [text] }

def addInstruction (m : ProgramModule) (text : String) : ProgramModule :=
  { m with instructions := m.instructions ++ [text] }

/-- Appends the declarations and instructions of a compiled set. -/
def pushSet (m : ProgramModule) (s : CompiledSet) : ProgramModule :=
  { m with declarations := m.declarations ++ s.declarationTexts,
           instructions := m.instructions ++ s.instructionTexts }

def setInstructions (m : ProgramModule) (instructions : List String) : ProgramModule :=
  { m with instructions }

/-- The module text. -/
def render (m : ProgramModule) : String :=
  assemble m.declarations m.instructions m.tools m.wobjs

end ProgramModule

/-- The program descriptor: an XML document listing the module files. -/
def programDescriptor (moduleFiles : List String) : String :=
  "<?xml version=\"1.0\" encoding=\"ISO-8859-1\" ?>\n<Program>\n" ++
    String.join (moduleFiles.map fun m => "\t<Module>" ++ m ++ "</Module>\n") ++ "</Program>\n"

end RobotProgram
