import RobotProgram.Config.Load
import RobotProgram.Job.Reading
import RobotProgram.Program.Instruction
import RobotProgram.LocalFiles
/-!
# RobotProgram.Cli.Command

The command line of the compiler:

    rust_toro [--config PATH] [-v]... compile JOB -o OUTPUT [--pgf PATH] [--manifest PATH]
    rust_toro [--config PATH] [-v]... config

`--config` (default `config/toro.toml`) and `-v` may stand anywhere. The settings are loaded
first, from that file (when it exists) and the `TORO_` environment variables. `compile` reads
the job file, compiles its blocks, splices its insertions and writes the module; with `--pgf`
it also writes a program descriptor naming the module file, and with `--manifest` the JSON of
the compiled sets. `config` prints the settings in effect as TOML.

A failure stops the run and is reported as a message with the chain of its causes; files
written before it stay written. The verbosity only changes what is logged, which is never part
of the output.
-/

namespace RobotProgram

namespace Cli

/-- Where the settings are read from unless `--config` says otherwise. -/
def defaultConfigPath : String := "config/toro.toml"

/-- What to do. -/
inductive Command where
  /-- Compile a job file into a module file, optionally with a descriptor and a manifest. -/
  | compile (job output : String) (pgf manifest : Option String)
  /-- Print the settings in effect. -/
  | showConfig
deriving Repr, DecidableEq

/-- A command line, read. -/
structure Invocation where
  config : String := defaultConfigPath
  verbosity : Nat := 0
  command : Command
deriving Repr

/-- Why a run stopped. -/
inductive Failure where
  /-- The command line could not be read; the text says why and how to call. -/
  | usage (text : String)
  /-- A step failed: its message and the messages of the causes behind it, outermost first. -/
  | report (message : String) (causes : List String)
deriving Repr, DecidableEq

namespace Failure

/-- The exit status of a failure. -/
def status : Failure → Nat
  | .usage _ => 2
  | .report _ _ => 1

/-- A cause's text with its continuation lines indented. -/
def indentCause (lead rest : String) (text : String) : String :=
  match text.splitOn "\n" with
  | [] => lead
  | first :: more => lead ++ first ++ String.join (more.map fun l => "\n" ++ rest ++ l)

/-- A number right-aligned in five columns. -/
def padNumber (n : Nat) : String :=
  let s := toString n
  String.ofList (List.replicate (5 - s.length) ' ') ++ s

/-- What a failure writes to the error stream. A single cause is indented; several are
numbered. -/
def text : Failure → String
  | .usage t => t
  | .report message [] => "Error: " ++ message ++ "\n"
  | .report message [c] => "Error: " ++ message ++ "\n\nCaused by:\n" ++ indentCause "    " "    " c ++ "\n"
  | .report message causes =>
    "Error: " ++ message ++ "\n\nCaused by:" ++ String.join (causes.zipIdx.map fun (c, n) =>
      "\n" ++ indentCause (padNumber n ++ ": ") "       " c) ++ "\n"

end Failure

/-- A configuration error with the error behind it: a source that could not be loaded has
its own message. -/
def configChain (e : ConfigError) : List String :=
  match e with
  | .load detail => [e.message, detail]
  | .validation _ => [e.message]

/-- A library error with the errors behind it. -/
def errorChain : Error → List String
  | .io detail => ["I/O error: " ++ detail, detail]
  | .config c => configChain c
  | e => [e.message]

/-! ## Reading the command line -/

/-- The usage line of the program. -/
def usageLine : String := "Usage: rust_toro [OPTIONS] <COMMAND>"

/-- A command line that cannot be read. -/
def usageError {α : Type} (what : String) : Except Failure α :=
  .error (.usage ("error: " ++ what ++ "\n\n" ++ usageLine ++ "\n\nFor more information, try '--help'.\n"))

/-- What has been read of a command line so far. -/
structure Tokens where
  config : Option String := none
  verbosity : Nat := 0
  subcommand : Option String := none
  positionals : List String := []
  output : Option String := none
  pgf : Option String := none
  manifest : Option String := none

/-- The value of an option written `--name=value`. -/
def inlineValue? (name token : String) : Option String :=
  if token.startsWith (name ++ "=") then some (token.drop (name.length + 1)).toString else none

/-- Reads the tokens of a command line. -/
def scan : List String → Tokens → Except Failure Tokens
  | [], t => .ok t
  | "--config" :: v :: rest, t => scan rest { t with config := some v }
  | ["--config"], _ => usageError "a value is required for '--config <CONFIG>' but none was supplied"
  | tok :: rest, t =>
    if tok == "-v" || tok == "--verbose" then scan rest { t with verbosity := t.verbosity + 1 }
    else if tok.startsWith "-v" && tok.length > 2 && (tok.drop 1).all (· == 'v') then
      scan rest { t with verbosity := t.verbosity + (tok.length - 1) }
    else if let some v := inlineValue? "--config" tok then scan rest { t with config := some v }
    else if t.subcommand == some "compile" then
      if tok == "-o" || tok == "--output" || tok == "--pgf" || tok == "--manifest" then
        match rest with
        | v :: more =>
          if tok == "--pgf" then scan more { t with pgf := some v }
          else if tok == "--manifest" then scan more { t with manifest := some v }
          else scan more { t with output := some v }
        | [] => usageError ("a value is required for '" ++ tok ++ "' but none was supplied")
      else if let some v := inlineValue? "--output" tok then scan rest { t with output := some v }
      else if let some v := inlineValue? "--pgf" tok then scan rest { t with pgf := some v }
      else if let some v := inlineValue? "--manifest" tok then scan rest { t with manifest := some v }
      else if tok.startsWith "-o" && tok.length > 2 then
        scan rest { t with output := some (tok.drop 2).toString }
      else if tok.startsWith "-" && tok != "-" then
        usageError ("unexpected argument '" ++ tok ++ "' found")
      else if t.positionals.isEmpty then scan rest { t with positionals := [tok] }
      else usageError ("unexpected argument '" ++ tok ++ "' found")
    else if tok.startsWith "-" && tok != "-" then
      usageError ("unexpected argument '" ++ tok ++ "' found")
    else if t.subcommand.isNone then
      if tok == "compile" || tok == "config" then scan rest { t with subcommand := some tok }
      else usageError ("unrecognized subcommand '" ++ tok ++ "'")
    else usageError ("unexpected argument '" ++ tok ++ "' found")

/-- Reads a command line (without the program name). -/
def parseArgs (args : List String) : Except Failure Invocation := do
  let t ← scan args {}
  let config := t.config.getD defaultConfigPath
  match t.subcommand with
  | some "config" => pure { config, verbosity := t.verbosity, command := .showConfig }
  | some _ =>
    match t.positionals, t.output with
    | [job], some output =>
      pure { config, verbosity := t.verbosity, command := .compile job output t.pgf t.manifest }
    | [], _ => usageError "the following required arguments were not provided:\n  <JOB>"
    | _, _ => usageError "the following required arguments were not provided:\n  --output <OUTPUT>"
  | none => usageError "'rust_toro' requires a subcommand but one was not provided"

/-! ## Running -/

/-- A run: it changes the local files and may stop with a failure, keeping what it wrote. -/
abbrev Run := ExceptT Failure (StateM LocalFiles)

/-- Stops with a message and its causes. -/
def fail {α : Type} (message : String) (causes : List String) : Run α :=
  throw (.report message causes)

/-- Stops with an error chain: the first message is the failure, the rest its causes. -/
def failWith {α : Type} : List String → Run α
  | [] => fail "" []
  | message :: causes => fail message causes

/-- The text of the settings file, if there is a file at that path. -/
def configText (files : LocalFiles) (path : String) : Except ConfigError (Option String) :=
  match files.entry? path with
  | .ok (.file _) =>
    match files.readText path with
    | .ok text => .ok (some text)
    | .error f => .error (.load f.text)
  | _ => .ok none

/-- Loads the settings for a run. -/
def loadSettings (path : String) (env : List (String × String)) : Run Settings := do
  let loaded := (configText (← get) path).bind fun text => Settings.load path text env
  match loaded with
  | .ok s => pure s
  | .error e => fail ("failed to load " ++ path) (configChain e)

/-- Writes a file; a fault is an I/O error. -/
def writeFile (path text : String) : Run Unit := do
  match (← get).writeText path text with
  | .ok fs => set fs
  | .error f => failWith (errorChain (.io f.text))

/-- Compiles a job file. -/
def compileJob (settings : Settings) (jobPath output : String) (pgf manifest : Option String) :
    Run Unit := do
  let text ← match (← get).readText jobPath with
    | .ok text => pure text
    | .error f => fail ("cannot read job file " ++ jobPath) [f.text]
  let job ← match Job.read text with
    | .ok job => pure job
    | .error e => fail ("invalid job file " ++ jobPath) [e.report text]
  let compiler ← match settings.compiler with
    | .ok c => pure c
    | .error e => failWith (configChain e)
  let (module, sets) ← match job.compile compiler with
    | .ok r => pure r
    | .error f => fail f.step (errorChain f.error)
  writeFile output module.render
  if let some pgfPath := pgf then
    match fileName? output with
    | some moduleFile => writeFile pgfPath (programDescriptor [moduleFile])
    | none => fail "output path has no file name" []
  if let some manifestPath := manifest then
    match (← get).writeText manifestPath (manifestText sets) with
    | .ok fs => set fs
    | .error f => fail ("cannot write manifest " ++ manifestPath) [f.text]

/-- Runs an invocation; the result is what it prints. -/
def execute (inv : Invocation) (env : List (String × String)) : Run String := do
  let settings ← loadSettings inv.config env
  match inv.command with
  | .compile job output pgf manifest =>
    compileJob settings job output pgf manifest
    pure ""
  | .showConfig => pure settings.toToml

/-- The end of a run: the files, what was printed, and the failure that stopped it. -/
structure Outcome where
  files : LocalFiles
  stdout : String := ""
  failure : Option Failure := none

/-- The exit status of a run. -/
def Outcome.status (o : Outcome) : Nat :=
  match o.failure with
  | some f => f.status
  | none => 0

/-- Runs a command line against the local files and the environment. -/
def run (args : List String) (env : List (String × String)) (files : LocalFiles) : Outcome :=
  match parseArgs args with
  | .error f => { files, failure := some f }
  | .ok inv =>
    match (execute inv env).run.run files with
    | (.ok out, fs) => { files := fs, stdout := out }
    | (.error f, fs) => { files := fs, failure := some f }

end Cli

end RobotProgram
