/-!
# RobotProgram.Controller.Handle

How a controller is named: its system id (a UUID), network address and name; and the user a
client logs on as. A handle is written `<name> (<id>) at <address>`, the id in lower-case
hexadecimal groups of 8, 4, 4, 4 and 12 digits.

Discovered controllers: a scan yields one record per controller; a session is opened against
the handle a record gives, and results split into physical and virtual controllers with the
order of each kind kept.
-/

-- Powers are `Nat.pow` and `Int.pow` themselves, whatever algebraic instances are in scope.
attribute [local instance (high)] instPowNat

namespace RobotProgram

/-- A 128-bit universally unique identifier. -/
structure Uuid where
  value : Nat
  lt : value < 2 ^ (128 : Nat) := by decide
deriving DecidableEq

namespace Uuid

/-- The nil UUID, all zeros. -/
def nil : Uuid := ⟨0, by decide⟩

instance : Inhabited Uuid := ⟨nil⟩

/-- The value of a hexadecimal digit, either case. -/
def hexDigit? (c : Char) : Option Nat :=
  if '0' ≤ c ∧ c ≤ '9' then some (c.toNat - '0'.toNat)
  else if 'a' ≤ c ∧ c ≤ 'f' then some (c.toNat - 'a'.toNat + 10)
  else if 'A' ≤ c ∧ c ≤ 'F' then some (c.toNat - 'A'.toNat + 10)
  else none

/-- The value of 32 hexadecimal digits. -/
def ofHex? (ds : List Char) : Option Uuid := do
  if ds.length ≠ 32 then none
  let v ← ds.foldlM (fun acc c => (fun d => 16 * acc + d) <$> hexDigit? c) 0
  if h : v < 2 ^ (128 : Nat) then some ⟨v, h⟩ else none

/-- The value of the hyphenated form `8-4-4-4-12`: 36 characters with hyphens at 8, 13, 18
and 23 and hexadecimal digits elsewhere. -/
def hyphenated? (cs : List Char) : Option Uuid :=
  if cs.length = 36 ∧ cs[8]? = some '-' ∧ cs[13]? = some '-' ∧ cs[18]? = some '-' ∧
      cs[23]? = some '-' then
    ofHex? (cs.filter (· != '-'))
  else none

/-- Reads a UUID of one of the four accepted shapes, told apart by length alone: 32 plain
digits, the hyphenated form, the hyphenated form in braces, or the hyphenated form after
`urn:uuid:`. -/
def shaped? (s : String) : Option Uuid :=
  let cs := s.toList
  if cs.any (fun c => c.toNat ≥ 128) then none
  else match cs.length with
    | 32 => ofHex? cs
    | 36 => hyphenated? cs
    | 38 =>
      if cs.head? = some '\x7b' ∧ cs.getLast? = some '\x7d' then hyphenated? (cs.drop 1).dropLast
      else none
    | 45 => if s.startsWith "urn:uuid:" then hyphenated? (cs.drop 9) else none
    | _ => none

/-- The first character, with its byte offset, that is neither a hexadecimal digit nor a
hyphen. -/
def strayChar? : Nat → List Char → Option (Char × Nat)
  | _, [] => none
  | pos, c :: cs =>
    if c == '-' || (hexDigit? c).isSome then strayChar? (pos + c.utf8Size) cs
    else some (c, pos)

/-- Where the hyphens stand among the characters. -/
def hyphenPositions (cs : List Char) : List Nat :=
  ((List.range cs.length).zip cs).filterMap fun (i, c) => if c == '-' then some i else none

/-- Why a text that is not a UUID fails, judged on its shape: a stray character (with its
byte offset), then a wrong length for a plain form, then a wrong number of groups, then the
first group of the wrong length. The lengths expected of the five groups are 8, 4, 4, 4
and 12, starting at offsets 0, 9, 14, 19 and 24. -/
def diagnose (s : String) : String :=
  let cs := s.toList
  let (body, offset, plain) :=
    if cs.length ≥ 2 ∧ cs.head? = some '\x7b' ∧ cs.getLast? = some '\x7d' then
      ((cs.drop 1).dropLast, 1, false)
    else if s.startsWith "urn:uuid:" then (cs.drop 9, 9, false)
    else (cs, 0, true)
  match strayChar? 0 body with
  | some (c, pos) => s!"invalid character: found `{c}` at {pos + offset}"
  | none =>
    let hyphens := hyphenPositions body
    if hyphens.isEmpty ∧ plain then
      let found := s.utf8ByteSize
      s!"invalid length: expected length 32 for simple format, found {found}"
    else if hyphens.length ≠ 4 then
      let groups := hyphens.length + 1
      s!"invalid group count: expected 5, found {groups}"
    else
      let starts := [0, 9, 14, 19, 24]
      let expected := [8, 4, 4, 4, 12]
      let wrong := ((List.range 4).zip hyphens).find? fun (i, pos) => pos + 1 ≠ starts.getD (i + 1) 0
      match wrong with
      | some (i, pos) =>
        let want := expected.getD i 0
        let found := pos - starts.getD i 0
        s!"invalid group length in group {i}: expected {want}, found {found}"
      | none =>
        let found := s.utf8ByteSize - 24
        s!"invalid group length in group 4: expected 12, found {found}"

/-- Reads a UUID, or says why the text is not one. -/
def parse (s : String) : Except String Uuid :=
  match shaped? s with
  | some u => .ok u
  | none => .error (diagnose s)

/-- The hyphenated lower-case text. -/
def text (u : Uuid) : String :=
  let ds := Nat.toDigits 16 u.value
  let ds := List.replicate (32 - ds.length) '0' ++ ds
  String.ofList (ds.take 8) ++ "-" ++ String.ofList ((ds.drop 8).take 4) ++ "-" ++
    String.ofList ((ds.drop 12).take 4) ++ "-" ++ String.ofList ((ds.drop 16).take 4) ++ "-" ++
    String.ofList (ds.drop 20)

end Uuid

/-- The identity of a controller on the network. -/
structure ControllerHandle where
  systemId : Uuid := Uuid.nil
  address : String := "127.0.0.1"
  name : String := "sim"
deriving DecidableEq, Inhabited

/-- `<name> (<id>) at <address>` -/
def ControllerHandle.text (h : ControllerHandle) : String :=
  h.name ++ " (" ++ h.systemId.text ++ ") at " ++ h.address

/-- The user a client logs on as; the factory account by default. -/
structure UserInfo where
  name : String := "Default User"
  password : String := "robotics"
deriving DecidableEq, Inhabited, Repr

/-- Whether a discovered controller accepts connections. -/
inductive Availability where
  | available
  | unavailable
deriving Repr, DecidableEq, Inhabited

/-- One discovered controller. -/
structure ControllerInfo where
  name : String
  systemId : Uuid
  availability : Availability
  version : String
  address : String
  isVirtual : Bool

/-- The handle to open a session with this controller. -/
def ControllerInfo.handle (c : ControllerInfo) : ControllerHandle :=
  { systemId := c.systemId, address := c.address, name := c.name }

/-- Physical controllers, then virtual ones, each in scan order. -/
def partitionByKind (found : List ControllerInfo) : List ControllerInfo × List ControllerInfo :=
  found.partition fun c => !c.isVirtual

end RobotProgram
