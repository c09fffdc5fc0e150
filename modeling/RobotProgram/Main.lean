import RobotProgram.Cli.Command
/-!
# RobotProgram.Main

The program: reads the files a command line names into a `LocalFiles` tree, runs the command
line, writes back the files the run wrote, prints its output and exits with its status. The
environment is read from the process's own environment block.
-/

namespace RobotProgram

namespace Main

/-- What is on disk at a path: a readable file, something else that exists (taken to be a
directory), or nothing. -/
def probe (path : String) : IO (Option FileEntry) := do
  match ← (IO.FS.readBinFile path).toBaseIO with
  | .ok bytes => pure (some (.file bytes))
  | .error _ =>
    match ← (IO.FS.realPath path).toBaseIO with
    | .ok _ => pure (some .directory)
    | .error _ => pure none

/-- Adds what is on disk along a path: every directory leading to it and the path itself. -/
def gather (fs : LocalFiles) (path : String) : IO LocalFiles := do
  let parts := path.splitOn "/"
  let mut fs := fs
  if path.startsWith "/" then
    fs := fs.put ["/"] .directory
  for k in List.range parts.length do
    let upTo := "/".intercalate (parts.take (k + 1))
    if upTo.isEmpty then continue
    match ← probe upTo, fs.locate upTo with
    | some entry, .ok (.inside names) =>
      if !names.isEmpty && names != ["/"] then fs := fs.put names entry
    | _, _ => pure ()
  pure fs

/-- The paths a command line reads or writes. -/
def pathsOf (inv : Cli.Invocation) : List String :=
  match inv.command with
  | .compile job output pgf manifest => [inv.config, job, output] ++ pgf.toList ++ manifest.toList
  | .showConfig => [inv.config]

/-- The path text of a list of names. -/
def pathText (names : List String) : String :=
  match names with
  | "/" :: rest => "/" ++ "/".intercalate rest
  | _ => "/".intercalate names

/-- The environment of the process, from its environment block; empty when it cannot be
read. -/
def environment : IO (List (String × String)) := do
  match ← (IO.FS.readBinFile "/proc/self/environ").toBaseIO with
  | .error _ => pure []
  | .ok bytes =>
    let chunks := (bytes.toList.splitOn 0).filter (!·.isEmpty)
    pure <| chunks.filterMap fun chunk =>
      match String.fromUTF8? (ByteArray.mk chunk.toArray) with
      | some entry =>
        match entry.splitOn "=" with
        | name :: rest => some (name, "=".intercalate rest)
        | [] => none
      | none => none

end Main

end RobotProgram

open RobotProgram RobotProgram.Main in
/-- Runs the command line. -/
def main (args : List String) : IO UInt32 := do
  let env ← environment
  let paths := match Cli.parseArgs args with
    | .ok inv => pathsOf inv
    | .error _ => []
  let mut before : LocalFiles := {}
  for p in paths do
    before ← gather before p
  let outcome := Cli.run args env before
  for (names, entry) in outcome.files.entries do
    match entry with
    | .file bytes =>
      let unchanged := before.entries.any fun (n, e) =>
        n == names && match e with
          | .file old => old.data == bytes.data
          | _ => false
      if !unchanged then IO.FS.writeBinFile (pathText names) bytes
    | _ => pure ()
  IO.print outcome.stdout
  if let some f := outcome.failure then IO.eprint f.text
  pure (UInt32.ofNat outcome.status)
