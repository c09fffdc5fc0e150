import RobotProgram.Job.Basic
import RobotProgram.Toml.Document
/-!
# RobotProgram.Job.Reading

Reading a job from the TOML text of a job file.

The file may hold `[[tool]]` and `[[wobj]]` declarations (`name`, `frame`, optional `mass`),
`[[block]]`s and `[[insert]]`s (`at`, `statements`); anything else is ignored. A block names its
`kind` (`MoveL`, `MoveJ`, `MoveAbsJ`, `MoveC` or `Custom`) and then the fields of that kind; an
array may stand for a block, its first item the kind.

A value that does not fit is reported at a place in the text. Values are read *in place*, so
that a failure points at the value being read (or, for a missing field, at the table that
lacks it). The fields of a block, however, are read from a copy made after its `kind` was found,
which has lost the places: a failure there points at the list of blocks itself (its first
`[[block]]` header). A copy is also stricter about fixed-length arrays, refusing extra items that
a reading in place ignores.

A record may also be given as an array of its fields in order; fields with a default may then
be left off the end.
-/

-- Powers are `Nat.pow` and `Int.pow` themselves, whatever algebraic instances are in scope.
attribute [local instance (high)] instPowNat

namespace RobotProgram

namespace Job

/-- How values are read: in place, knowing where they are, or from a copy that does not. -/
inductive Reading where
  | inPlace
  | copied
deriving DecidableEq

/-- A reading that may fail at a place (or at no place yet). -/
abbrev Decoded (α : Type) := Except (Option Nat) α

/-- A failure at no place yet. -/
def miss {α : Type} : Decoded α := .error none

/-- A failure while reading `v` in place points at `v`, unless it already points somewhere. -/
def pointing {α : Type} (mode : Reading) (v : Toml.Value) (r : Decoded α) : Decoded α :=
  if mode == .inPlace then r.mapError fun p => p.orElse fun _ => v.start? else r

/-- The items of an array or an array of tables. -/
def itemsOf? : Toml.Value → Option (List Toml.Value)
  | .array _ xs | .tables xs => some xs
  | _ => none

/-- A string. -/
def text (mode : Reading) (v : Toml.Value) : Decoded String :=
  pointing mode v <| match v with
    | .string _ s => .ok s
    | _ => miss

/-- A float; an integer is taken as its value. -/
def float (mode : Reading) (v : Toml.Value) : Decoded Float :=
  pointing mode v <| match v with
    | .float _ x => .ok x
    | .integer _ n => .ok (Float.ofInt n)
    | _ => miss

/-- A 32-bit signed integer. -/
def int32 (mode : Reading) (v : Toml.Value) : Decoded Int32 :=
  pointing mode v <| match v with
    | .integer _ n => if -2 ^ (31 : Nat) ≤ n && n < 2 ^ (31 : Nat) then .ok (Int32.ofInt n) else miss
    | _ => miss

/-- A size: a non-negative integer. -/
def size (mode : Reading) (v : Toml.Value) : Decoded Nat :=
  pointing mode v <| match v with
    | .integer _ n => if n ≥ 0 then .ok n.toNat else miss
    | _ => miss

/-- A list of items. -/
def list {α : Type} (mode : Reading) (item : Toml.Value → Decoded α) (v : Toml.Value) :
    Decoded (List α) :=
  pointing mode v <| match itemsOf? v with
    | some xs => xs.mapM item
    | none => miss

/-- Exactly `n` items: fewer fail; more fail only when reading a copy. -/
def fixed {α : Type} (mode : Reading) (n : Nat) (item : Toml.Value → Decoded α)
    (v : Toml.Value) : Decoded (List α) :=
  pointing mode v <| match itemsOf? v with
    | some xs => do
      let vals ← (xs.take n).mapM item
      if vals.length < n then miss
      else if mode == .copied && xs.length > n then miss
      else pure vals
    | none => miss

/-- A field of a record: its key, whether it must be present in a table and in an array, and
how it is read into the record. -/
structure Field (α : Type) where
  key : String
  neededInTable : Bool
  neededInArray : Bool
  read : α → Toml.Value → Decoded α

/-- A record read field by field from a table (unknown keys ignored) or by position from an
array. -/
def record {α : Type} (mode : Reading) (init : α) (fields : List (Field α)) (v : Toml.Value) :
    Decoded α :=
  pointing mode v <| match v.entries? with
    | some es => do
      let (acc, seen) ← es.foldlM (fun (acc, seen) (k, x) =>
        match fields.find? (·.key == k) with
        | some f => do pure (← f.read acc x, k :: seen)
        | none => pure (acc, seen)) (init, ([] : List String))
      if fields.any fun f => f.neededInTable && !seen.contains f.key then miss else pure acc
    | none =>
      match itemsOf? v with
      | some xs => do
        let acc ← (fields.zip xs).foldlM (fun acc (f, x) => f.read acc x) init
        if (fields.drop xs.length).any (·.neededInArray) then miss
        else if mode == .copied && xs.length > fields.length then miss
        else pure acc
      | none => miss

/-- A field that must be given. -/
def needed {α : Type} (key : String) (read : α → Toml.Value → Decoded α) : Field α :=
  ⟨key, true, true, read⟩

/-- A field with a default. -/
def optional {α : Type} (key : String) (read : α → Toml.Value → Decoded α) : Field α :=
  ⟨key, false, false, read⟩

/-- A field that may be left out of a table but not out of an array. -/
def omissible {α : Type} (key : String) (read : α → Toml.Value → Decoded α) : Field α :=
  ⟨key, false, true, read⟩

/-! ## Poses -/

/-- Turns a missing shape into a failure. -/
def shaped {α : Type} : Option α → Decoded α
  | some a => .ok a
  | none => miss

/-- An arm configuration: all four quadrants. -/
def armConfiguration (mode : Reading) : Toml.Value → Decoded ArmConfiguration :=
  record mode {} [
    needed "cf1" fun c x => return { c with cf1 := ← int32 mode x },
    needed "cf4" fun c x => return { c with cf4 := ← int32 mode x },
    needed "cf6" fun c x => return { c with cf6 := ← int32 mode x },
    needed "cfx" fun c x => return { c with cfx := ← int32 mode x }]

/-- Six external axis values, all in use. -/
def externalAxes (mode : Reading) (v : Toml.Value) : Decoded ExternalAxes := do
  shaped (ExternalAxes.ofList? (← fixed mode 6 (fun x => some <$> float mode x) v))

/-- A Cartesian pose. -/
def cartesianPose (mode : Reading) : Toml.Value → Decoded CartesianPose :=
  record mode { position := ⟨0, 0, 0⟩, orientation := ⟨0, 0, 0, 0⟩ } [
    needed "position" fun p x => do
      return { p with position := ← shaped (Position.ofList? (← fixed mode 3 (float mode) x)) },
    needed "orientation" fun p x => do
      return { p with orientation := ← shaped (Quaternion.ofList? (← fixed mode 4 (float mode) x)) },
    optional "config" fun p x => return { p with config := ← armConfiguration mode x },
    optional "external" fun p x => return { p with external := ← externalAxes mode x }]

/-- A joint pose. -/
def jointPose (mode : Reading) : Toml.Value → Decoded JointPose :=
  record mode { joints := ⟨0, 0, 0, 0, 0, 0⟩ } [
    needed "joints" fun p x => do
      return { p with joints := ← shaped (Joints.ofList? (← fixed mode 6 (float mode) x)) },
    optional "external" fun p x => return { p with external := ← externalAxes mode x }]

/-! ## Blocks -/

/-- A speed or zone: a level (a number) or a symbol (a string). -/
def motionParameter (v : Toml.Value) : Decoded MotionParameter :=
  match v with
  | .integer _ n => .ok (.level (Float.ofInt n))
  | .float _ x => .ok (.level x)
  | .string _ s => .ok (.symbol s)
  | _ => miss

/-- The move settings and targets of a block of moves, read from a copy. -/
structure MoveFields where
  settings : MoveSettings := { setName := "", speeds := [], zones := [] }
  cartesian : List CartesianPose := []
  joints : List JointPose := []
  via : List CartesianPose := []

/-- The fields every block of moves has. -/
def settingFields : List (Field MoveFields) := [
  needed "set_name" fun m x => return { m with settings.setName := ← text .copied x },
  needed "speeds" fun m x => return { m with settings.speeds := ← list .copied motionParameter x },
  needed "zones" fun m x => return { m with settings.zones := ← list .copied motionParameter x },
  omissible "tool" fun m x => return { m with settings.tool := some (← text .copied x) },
  omissible "wobj" fun m x => return { m with settings.wobj := some (← text .copied x) }]

/-- The Cartesian targets of a block. -/
def cartesianTargets : Field MoveFields :=
  needed "targets" fun m x => return { m with cartesian := ← list .copied (cartesianPose .copied) x }

/-- The body of a block of the given kind, read from a copy of what follows the kind. A block of
moves shares its table with the move settings, so it must be a table; a custom block may also
be an array holding its statements. -/
def blockBody (kind : String) (body : Toml.Value) : Option (Decoded Block) :=
  let moves (extra : List (Field MoveFields)) : Decoded MoveFields :=
    if body.entries?.isSome then record .copied {} (settingFields ++ extra) body else miss
  if kind == "MoveL" then some ((moves [cartesianTargets]).map fun m => .moveL m.settings m.cartesian)
  else if kind == "MoveJ" then some ((moves [cartesianTargets]).map fun m => .moveJ m.settings m.cartesian)
  else if kind == "MoveAbsJ" then
    some ((moves [needed "targets" fun m x => return { m with joints := ← list .copied (jointPose .copied) x }]).map
      fun m => .moveAbsJ m.settings m.joints)
  else if kind == "MoveC" then
    some ((moves [needed "via" (fun m x => return { m with via := ← list .copied (cartesianPose .copied) x }),
      cartesianTargets]).map fun m => .moveC m.settings m.via m.cartesian)
  else if kind == "Custom" then
    some ((record .copied ([] : List String) [needed "statements" fun _ x => list .copied (text .copied) x] body).map
      .custom)
  else none

/-- A block: a table naming its `kind`, or an array whose first item is the kind. The kind is
read in place, the rest from a copy. -/
def block (v : Toml.Value) : Decoded Block :=
  let tagged (k body : Toml.Value) : Decoded Block :=
    match k with
    | .string _ name =>
      match blockBody name body with
      | some r => r
      | none => pointing .inPlace k miss
    | _ => pointing .inPlace k miss
  -- a copy is read without places, so the place given to it is never used
  match v.entries?, itemsOf? v with
  | some es, _ =>
    match es.lookup "kind" with
    | some k => tagged k (.table 0 false false (es.filter (·.1 != "kind")))
    | none => pointing .inPlace v miss
  | none, some (k :: rest) => tagged k (.array 0 rest)
  | _, _ => pointing .inPlace v miss

/-! ## Jobs -/

/-- A tool or work-object declaration. -/
def frameDeclaration : Toml.Value → Decoded FrameDeclaration :=
  record .inPlace { name := "", frame := { position := ⟨0, 0, 0⟩, orientation := ⟨0, 0, 0, 0⟩ } } [
    needed "name" fun d x => return { d with name := ← text .inPlace x },
    needed "frame" fun d x => return { d with frame := ← cartesianPose .inPlace x },
    optional "mass" fun d x => return { d with mass := ← float .inPlace x }]

/-- An insertion. -/
def insertion : Toml.Value → Decoded Insertion :=
  record .inPlace { indices := [], statements := [] } [
    needed "at" fun i x => return { i with indices := ← list .inPlace (size .inPlace) x },
    needed "statements" fun i x => return { i with statements := ← list .inPlace (text .inPlace) x }]

/-- A job from its document. -/
def ofDocument : Toml.Value → Decoded Job :=
  record .inPlace {} [
    optional "tool" fun j x => return { j with tools := ← list .inPlace frameDeclaration x },
    optional "wobj" fun j x => return { j with wobjs := ← list .inPlace frameDeclaration x },
    optional "block" fun j x => return { j with blocks := ← list .inPlace block x },
    optional "insert" fun j x => return { j with insertions := ← list .inPlace insertion x }]

/-- Why a job text could not be read. -/
inductive ReadFailure where
  /-- The text is not TOML. -/
  | malformed (e : Toml.SyntaxError)
  /-- A value at that offset does not fit a job. -/
  | shape (offset : Nat)

/-- The report of a failure to read a job text. -/
def ReadFailure.report (text : String) : ReadFailure → String
  | .malformed e => e.render text
  | .shape offset => Toml.report text offset 1 "the value here does not fit a job"

/-- Reads a job from a job file's text. -/
def read (text : String) : Except ReadFailure Job :=
  match Toml.parse text with
  | .error e => .error (.malformed e)
  | .ok doc => (ofDocument doc).mapError fun p => .shape (p.getD 0)

end Job

end RobotProgram
