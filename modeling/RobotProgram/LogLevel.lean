/-!
# RobotProgram.LogLevel

Log verbosity levels and how a configured level name is read.

A name is read as a level number `1` to `5` (an optional `+`, then decimal digits; leading
zeros allowed) counting from the most severe, or as a level's name in any mix of ASCII case.
Anything else falls back to `INFO`.
-/

namespace RobotProgram

/-- A log level, from the most severe to the most verbose. -/
inductive LogLevel where
  | error
  | warn
  | info
  | debug
  | trace
deriving Repr, DecidableEq, Inhabited

namespace LogLevel

/-- Every level, most severe first; level `n` is at position `n - 1`. -/
def all : List LogLevel := [.error, .warn, .info, .debug, .trace]

/-- The level's name in capitals. -/
def name : LogLevel → String
  | .error => "ERROR"
  | .warn => "WARN"
  | .info => "INFO"
  | .debug => "DEBUG"
  | .trace => "TRACE"

/-- The level of number `n`, for `1 ≤ n ≤ 5`. -/
def ofNumber? (n : Nat) : Option LogLevel :=
  if n = 0 then none else all[n - 1]?

/-- The value of an unsigned decimal text: an optional `+` and at least one digit. -/
def numberValue? (s : String) : Option Nat :=
  let ds := match s.toList with
    | '+' :: rest => rest
    | cs => cs
  if !ds.isEmpty && ds.all Char.isDigit then
    some (ds.foldl (fun acc c => 10 * acc + (c.toNat - '0'.toNat)) 0)
  else none

/-- Reads a level by number or by name in any ASCII case. -/
def parse? (s : String) : Option LogLevel :=
  match (numberValue? s).bind ofNumber? with
  | some l => some l
  | none => all.find? fun l => s.toList.map Char.toLower == l.name.toList.map Char.toLower

/-- Reads a configured level, falling back to `INFO`. -/
def parseOrInfo (s : String) : LogLevel :=
  (parse? s).getD .info

end LogLevel

end RobotProgram
