/-!
# RobotProgram.LocalFiles

The local files a program reads and writes: a tree of directories and files under a working
directory, held in memory. A path is resolved as the system resolves it. Empty components are
skipped, `.` stays and `..` goes up. Every component before the last must name a directory.
Above the working directory lies a directory that exists but whose contents are not known, so
nothing in it is found and nothing can be made there.

An absolute path starts at the root. The root holds `tmp`, `dev` and `dev/null`, a device that
reads as empty and swallows what is written. Anything else absolute is only there if the tree
holds it.

The faults are the system's:
* a missing file or directory, a file where a directory is needed, a directory where a file is
  needed, an existing entry where a new one is made;
* a name longer than 255 bytes, or a path of 4096 bytes or more;
* a path with a NUL byte, refused before the system sees it;
* text that is not UTF-8.
-/

namespace RobotProgram

/-- Why a file operation failed. -/
inductive FileFault where
  | notFound
  | notDirectory
  | isDirectory
  | invalidUtf8
  | exists
  | nameTooLong
  | nulByte
  | noRoot
deriving Repr, DecidableEq, Inhabited

/-- The system's text of a fault. -/
def FileFault.text : FileFault → String
  | .notFound => "No such file or directory (os error 2)"
  | .notDirectory => "Not a directory (os error 20)"
  | .isDirectory => "Is a directory (os error 21)"
  | .invalidUtf8 => "stream did not contain valid UTF-8"
  | .exists => "File exists (os error 17)"
  | .nameTooLong => "File name too long (os error 36)"
  | .nulByte => "file name contained an unexpected NUL byte"
  | .noRoot => "failed to create whole tree"

/-- What a path names. -/
inductive FileEntry where
  | directory
  | file (bytes : ByteArray)
  /-- A device that reads as empty and accepts any write. -/
  | sink
deriving Inhabited

/-- A tree of files, each entry under its path of names: relative to the working directory, or
starting with `/` when absolute. The working directory itself is always there. -/
structure LocalFiles where
  entries : List (List String × FileEntry) := []
deriving Inhabited

namespace LocalFiles

/-- The longest name, in bytes. -/
def nameMax : Nat := 255

/-- The shortest path, in bytes, that is too long. -/
def pathMax : Nat := 4096

/-- Where a path leads. -/
inductive Place where
  /-- A path of names below the working directory, or below `/` when it starts with `/`. -/
  | inside (names : List String)
  /-- A directory above the working directory, whose contents are not known. -/
  | above
deriving Repr, DecidableEq

/-- The entries every system has: the root, `/tmp`, `/dev` and `/dev/null`. -/
def standard : List String → Option FileEntry
  | ["/"] => some .directory
  | ["/", "tmp"] => some .directory
  | ["/", "dev"] => some .directory
  | ["/", "dev", "null"] => some .sink
  | _ => none

/-- What lies at a path of names. -/
def find? (fs : LocalFiles) (names : List String) : Option FileEntry :=
  if names.isEmpty then some .directory
  else
    match fs.entries.find? (·.1 == names) with
    | some (_, e) => some e
    | none => standard names

/-- The directory one level up; the root is its own parent. -/
def Place.up : Place → Place
  | .inside [] => .above
  | .inside ["/"] => .inside ["/"]
  | .inside names => .inside names.dropLast
  | .above => .above

/-- Looks a name up in a directory. -/
def lookup (fs : LocalFiles) (dir : Place) (name : String) : Except FileFault (List String × FileEntry) :=
  if name.utf8ByteSize > nameMax then .error .nameTooLong
  else
    match dir with
    | .above => .error .notFound
    | .inside names =>
      match fs.find? (names ++ [name]) with
      | some e => .ok (names ++ [name], e)
      | none => .error .notFound

/-- Walks the components that lead to the last one: each must name a directory. -/
def walk (fs : LocalFiles) : Place → List String → Except FileFault Place
  | place, [] => .ok place
  | place, c :: rest =>
    if c = "." then fs.walk place rest
    else if c = ".." then fs.walk place.up rest
    else
      match fs.lookup place c with
      | .error e => .error e
      | .ok (names, .directory) => fs.walk (.inside names) rest
      | .ok (_, _) => .error .notDirectory

/-- What the last component of a path names. -/
inductive Target where
  /-- A directory reached by `.`, `..` or the root itself. -/
  | dir (place : Place)
  /-- A name in a directory, perhaps followed by a slash. -/
  | named (dir : Place) (name : String) (slash : Bool)

/-- Resolves a path up to its last component. A NUL byte is refused first, then an empty path
and a path that is too long. -/
def resolve (fs : LocalFiles) (path : String) : Except FileFault Target :=
  if path.contains (Char.ofNat 0) then .error .nulByte
  else if path.isEmpty then .error .notFound
  else if path.utf8ByteSize ≥ pathMax then .error .nameTooLong
  else
    let parts := (path.splitOn "/").filter (· ≠ "")
    let start : Place := if path.startsWith "/" then .inside ["/"] else .inside []
    match parts.getLast? with
    | none => .ok (.dir start)
    | some last =>
      match fs.walk start parts.dropLast with
      | .error e => .error e
      | .ok here =>
        if last = "." then .ok (.dir here)
        else if last = ".." then .ok (.dir here.up)
        else .ok (.named here last (path.endsWith "/"))

/-- The place a path names, with the entries leading to it in the tree. -/
def locate (fs : LocalFiles) (path : String) : Except FileFault Place :=
  match fs.resolve path with
  | .error e => .error e
  | .ok (.dir place) => .ok place
  | .ok (.named .above _ _) => .ok .above
  | .ok (.named (.inside names) name _) => .ok (.inside (names ++ [name]))

/-- What a path names, if it exists. A slash after a name asks for a directory. -/
def entry? (fs : LocalFiles) (path : String) : Except FileFault FileEntry :=
  match fs.resolve path with
  | .error e => .error e
  | .ok (.dir _) => .ok .directory
  | .ok (.named dir name slash) =>
    match fs.lookup dir name with
    | .error e => .error e
    | .ok (_, .directory) => .ok .directory
    | .ok (_, e) => if slash then .error .notDirectory else .ok e

/-- The path exists (as a file, a device or a directory). -/
def metadata (fs : LocalFiles) (path : String) : Except FileFault Unit :=
  (fs.entry? path).map fun _ => ()

/-- The path names a directory. -/
def isDirectory (fs : LocalFiles) (path : String) : Bool :=
  match fs.entry? path with
  | .ok .directory => true
  | _ => false

/-- The bytes of a file; a device reads as empty. -/
def readBytes (fs : LocalFiles) (path : String) : Except FileFault ByteArray :=
  match fs.entry? path with
  | .error e => .error e
  | .ok .directory => .error .isDirectory
  | .ok (.file bytes) => .ok bytes
  | .ok .sink => .ok ByteArray.empty

/-- The text of a file, which must be UTF-8. -/
def readText (fs : LocalFiles) (path : String) : Except FileFault String := do
  match String.fromUTF8? (← fs.readBytes path) with
  | some s => pure s
  | none => throw .invalidUtf8

/-- Puts an entry at a path of names, replacing one there. -/
def put (fs : LocalFiles) (names : List String) (e : FileEntry) : LocalFiles :=
  { entries := (fs.entries.filter (·.1 != names)) ++ [(names, e)] }

/-- Writes a file, creating or truncating it; its directory must exist. A path that ends in a
directory, or in a slash, names no file to write. -/
def writeBytes (fs : LocalFiles) (path : String) (bytes : ByteArray) : Except FileFault LocalFiles :=
  match fs.resolve path with
  | .error e => .error e
  | .ok (.dir _) => .error .isDirectory
  | .ok (.named dir name slash) =>
    if slash then .error .isDirectory
    else
      match fs.lookup dir name with
      | .ok (_, .directory) => .error .isDirectory
      | .ok (_, .sink) => .ok fs
      | .ok (names, .file _) => .ok (fs.put names (.file bytes))
      | .error .notFound =>
        match dir with
        | .inside names => .ok (fs.put (names ++ [name]) (.file bytes))
        | .above => .error .notFound
      | .error e => .error e

/-- Writes a text file in UTF-8. -/
def writeText (fs : LocalFiles) (path : String) (text : String) : Except FileFault LocalFiles :=
  fs.writeBytes path text.toUTF8

/-- Makes one directory in an existing one; nothing may be there yet. -/
def makeDirectory (fs : LocalFiles) (path : String) : Except FileFault LocalFiles :=
  match fs.resolve path with
  | .error e => .error e
  | .ok (.dir _) => .error .exists
  | .ok (.named dir name _) =>
    match fs.lookup dir name with
    | .ok _ => .error .exists
    | .error .notFound =>
      match dir with
      | .inside names => .ok (fs.put (names ++ [name]) .directory)
      | .above => .error .notFound
    | .error e => .error e

/-- The components of a path as its parents are taken from it: the root, if the path is
absolute, then the names, with empty components and every `.` but a leading one dropped. -/
def components (path : String) : Bool × List String :=
  let parts := path.splitOn "/"
  let absolute := path.startsWith "/"
  let lead := if !absolute && parts.head? = some "." then ["."] else []
  let rest := (if lead.isEmpty then parts else parts.drop 1).filter (fun c => c ≠ "" ∧ c ≠ ".")
  (absolute, lead ++ rest)

/-- The text of a path made of components. -/
def componentText (absolute : Bool) (names : List String) : String :=
  (if absolute then "/" else "") ++ "/".intercalate names

/-- Makes the directory at a path, given with its components last first, and those above it
that are missing. A directory is made outright when it can be. When its parent is missing, the
parent is made first and the directory tried again. A failure for any other reason is no
failure if a directory is there. Without a parent at all there is nothing to make. -/
def makeAll (fs : LocalFiles) (absolute : Bool) : String → List String → Except FileFault LocalFiles
  | path, [] =>
    if !absolute then .ok fs
    else
      match fs.makeDirectory path with
      | .ok fs' => .ok fs'
      | .error .notFound => .error .noRoot
      | .error e => if fs.isDirectory path then .ok fs else .error e
  | path, _ :: above =>
    match fs.makeDirectory path with
    | .ok fs' => .ok fs'
    | .error .notFound =>
      match fs.makeAll absolute (componentText absolute above.reverse) above with
      | .error e => .error e
      | .ok fs1 =>
        match fs1.makeDirectory path with
        | .ok fs2 => .ok fs2
        | .error e => if fs1.isDirectory path then .ok fs1 else .error e
    | .error e => if fs.isDirectory path then .ok fs else .error e

/-- Creates a directory and the missing directories above it; an existing directory is
fine. The empty path asks for nothing. -/
def createDirAll (fs : LocalFiles) (path : String) : Except FileFault LocalFiles :=
  let (absolute, names) := components path
  fs.makeAll absolute path names.reverse

end LocalFiles

/-- The last name of a path, unless it ends in `..` or names the root or nothing. A trailing
`/` or `.` is passed over. -/
def fileName? (path : String) : Option String :=
  match ((path.splitOn "/").filter (fun c => c ≠ "" ∧ c ≠ ".")).getLast? with
  | some c => if c = ".." then none else some c
  | none => none

/-- A path joined to a directory: a name is appended after a `/`; an absolute path replaces the
directory. -/
def joinPath (dir name : String) : String :=
  if name.startsWith "/" || dir.isEmpty then name
  else if dir.endsWith "/" then dir ++ name
  else dir ++ "/" ++ name

end RobotProgram
