import RobotProgram.Motion.Pose.Reading
/-!
# RobotProgram.Controller.Value

Typed values of controller data items. A value's type is inferred from the shape of its
literal:

* a number, a truth value, a string: `num`, `bool`, `string`;
* a list of four groups led by a list: a robtarget; of two groups led by a list: a jointtarget
  (each read again as a whole, so its faults name the whole text);
* three items led by a truth value, then a frame and load data: `tooldata`;
* five items: two truth values, a string, two frames: `wobjdata`.

A frame is a list of a position and an orientation. Anything else is an unrecognised shape.
The text of a value is the literal it was read from, with numbers written by `numberText`.
-/

namespace RobotProgram

/-- The load a tool carries: mass, centre of gravity, axes of moment, inertias. -/
structure LoadData where
  mass : Float
  cog : Position
  aom : Quaternion
  ix : Float
  iy : Float
  iz : Float
deriving Repr, Inhabited

/-- A tool: whether the robot holds it, its frame, its load. -/
structure ToolData where
  robhold : Bool
  tframe : CartesianPose
  load : LoadData
deriving Repr, Inhabited

/-- A work object: whether the robot holds it, whether the user frame is programmed, the
mechanical unit that moves the user frame, the user frame and the object frame. -/
structure WobjData where
  robhold : Bool
  ufprog : Bool
  ufmec : String
  uframe : CartesianPose
  oframe : CartesianPose
deriving Repr, Inhabited

/-- A value a controller data item holds. -/
inductive DataValue where
  | robtarget (pose : CartesianPose)
  | jointtarget (pose : JointPose)
  | tooldata (tool : ToolData)
  | wobjdata (wobj : WobjData)
  | num (value : Float)
  | bool (value : Bool)
  | str (value : String)
deriving Repr, Inhabited

namespace LoadData

/-- `[mass,[cog],[aom],ix,iy,iz]` -/
def text (l : LoadData) : String :=
  "[" ++ numberText l.mass ++ "," ++ numberListText l.cog.toList ++ "," ++
    numberListText l.aom.toList ++ "," ++ numberText l.ix ++ "," ++ numberText l.iy ++ "," ++
    numberText l.iz ++ "]"

/-- Load data from a literal of six items. -/
def ofLiteral? (lit : Literal) : Option LoadData := do
  match ← lit.items? with
  | [m, cog, aom, ix, iy, iz] =>
    pure ⟨← m.num?, ← cog.numbers? 3 >>= Position.ofList?, ← aom.numbers? 4 >>= Quaternion.ofList?,
      ← ix.num?, ← iy.num?, ← iz.num?⟩
  | _ => none

end LoadData

/-- A frame from a literal `[[x,y,z],[q1,q2,q3,q4]]`, as a pose with no configuration or
external axes. -/
def frameOfLiteral? (lit : Literal) : Option CartesianPose := do
  match ← lit.items? with
  | [pos, ori] =>
    pure { position := ← pos.numbers? 3 >>= Position.ofList?,
           orientation := ← ori.numbers? 4 >>= Quaternion.ofList? }
  | _ => none

namespace DataValue

/-- The controller data type of a value. -/
def dataType : DataValue → String
  | .robtarget _ => "robtarget"
  | .jointtarget _ => "jointtarget"
  | .tooldata _ => "tooldata"
  | .wobjdata _ => "wobjdata"
  | .num _ => "num"
  | .bool _ => "bool"
  | .str _ => "string"

/-- A value fits a declared type of its own name; a number also fits `dnum`. -/
def fits (v : DataValue) (declared : String) : Bool :=
  declared == v.dataType || (declared == "dnum" && v matches .num _)

/-- The literal text of a value. -/
def text : DataValue → String
  | .robtarget p => p.text
  | .jointtarget j => j.text
  | .tooldata t => "[" ++ boolText t.robhold ++ "," ++ t.tframe.frameText ++ "," ++
      t.load.text ++ "]"
  | .wobjdata w => "[" ++ boolText w.robhold ++ "," ++ boolText w.ufprog ++ ",\"" ++
      w.ufmec ++ "\"," ++ w.uframe.frameText ++ "," ++ w.oframe.frameText ++ "]"
  | .num x => numberText x
  | .bool b => boolText b
  | .str s => "\"" ++ s ++ "\""

/-- The value of a literal read from `text`, by the shape of the literal. -/
def ofLiteral (text : String) : Literal → Except Error DataValue
  | .num x => .ok (.num x)
  | .bool b => .ok (.bool b)
  | .str s => .ok (.str s)
  | .list items =>
    let unrecognised : Except Error DataValue :=
      .error (.invalidLiteral text "unrecognised record shape")
    match items with
    | [.list _, _, _, _] => robtarget <$> CartesianPose.parse text
    | [.list _, _] => jointtarget <$> JointPose.parse text
    | [.bool robhold, frame, load] =>
      match frameOfLiteral? frame, LoadData.ofLiteral? load with
      | some tframe, some load => .ok (.tooldata ⟨robhold, tframe, load⟩)
      | _, _ => unrecognised
    | [.bool robhold, .bool ufprog, .str ufmec, uf, of] =>
      match frameOfLiteral? uf, frameOfLiteral? of with
      | some uframe, some oframe => .ok (.wobjdata ⟨robhold, ufprog, ufmec, uframe, oframe⟩)
      | _, _ => unrecognised
    | _ => unrecognised

/-- Reads a value from its literal text, inferring its type. -/
def parse (text : String) : Except Error DataValue := do
  ofLiteral text (← Literal.parse text)

/-- Reads a value of a declared type. Targets are read as such; the other supported types are
read by shape and must fit the declared type. -/
def parseAs (dataType text : String) : Except Error DataValue :=
  if dataType == "robtarget" then robtarget <$> CartesianPose.parse text
  else if dataType == "jointtarget" then jointtarget <$> JointPose.parse text
  else if ["tooldata", "wobjdata", "num", "dnum", "bool", "string"].contains dataType then do
    let v ← parse text
    if v.fits dataType then pure v
    else throw (.invalidLiteral text s!"not a {dataType} value")
  else .error (.protocol s!"unsupported data type '{dataType}'")

end DataValue

end RobotProgram
