import RobotProgram.Motion.Pose
/-!
# RobotProgram.Program.WorldZone

World zones: volumes the controller supervises. A zone is declared as shape data with its
corners, centre or joint limits, and defined by an instruction that says whether the zone is
the inside or the outside of the shape. A joint limit zone is also made stationary and
activated.
-/

namespace RobotProgram

/-- Which side of the shape the zone is. -/
inductive ZoneSide where
  | inside
  | outside
deriving Repr, DecidableEq, Inhabited

/-- The switch of a side: `\Inside` or `\Outside`. -/
def ZoneSide.switch : ZoneSide → String
  | .inside => "\\Inside"
  | .outside => "\\Outside"

/-- The declarations and instructions that set up a world zone. -/
structure WorldZone where
  declarations : String
  instructions : String
deriving Repr, Inhabited

namespace WorldZone

/-- A box between two corners. -/
def box (name : String) (side : ZoneSide) (low high : Position) : WorldZone where
  declarations := "\n\tVAR shapedata " ++ name ++ ";\n\tCONST pos lo" ++ name ++ ":=" ++
    numberListText low.toList ++ ";\n\tCONST pos hi" ++ name ++ ":=" ++
    numberListText high.toList ++ ";"
  instructions := "\n\t\tWZBoxDef " ++ side.switch ++ "," ++ name ++ ",lo" ++ name ++ ",hi" ++
    name ++ ";"

/-- A vertical cylinder by the centre of its base, its radius and its height. -/
def cylinder (name : String) (side : ZoneSide) (center : Position) (radius height : Float) :
    WorldZone where
  declarations := "\n\tVAR shapedata " ++ name ++ ";\n\tCONST pos c" ++ name ++ ":=" ++
    numberListText center.toList ++ ";\n\tCONST num r" ++ name ++ ":=" ++ numberText radius ++
    ";\n\tCONST num h" ++ name ++ ":=" ++ numberText height ++ ";"
  instructions := "\n\t\tWZCylDef " ++ side.switch ++ "," ++ name ++ ",c" ++ name ++ ",r" ++
    name ++ ",h" ++ name ++ ";"

/-- A sphere by its centre and radius. -/
def sphere (name : String) (side : ZoneSide) (center : Position) (radius : Float) :
    WorldZone where
  declarations := "\n\tVAR shapedata " ++ name ++ ";\n\tCONST pos c" ++ name ++ ":=" ++
    numberListText center.toList ++ ";\n\tCONST num r" ++ name ++ ":=" ++ numberText radius ++
    ";"
  instructions := "\n\t\tWZSphDef " ++ side.switch ++ "," ++ name ++ ",c" ++ name ++ ",r" ++
    name ++ ";"

/-- Joint limits between two joint poses, supervised as a stationary zone. -/
def jointLimits (name : String) (side : ZoneSide) (low high : JointPose) : WorldZone where
  declarations := "\n\tVAR wzstationary wl" ++ name ++ ";\n\tVAR shapedata js" ++ name ++
    ";\n\tCONST jointtarget lo" ++ name ++ ":=" ++ low.text ++ ";\n\tCONST jointtarget hi" ++
    name ++ ":=" ++ high.text ++ ";"
  instructions := "\n\t\tWZLimJointDef " ++ side.switch ++ ",js" ++ name ++ ",lo" ++ name ++
    ",hi" ++ name ++ ";\n\t\tWZLimSup \\Stat,wl" ++ name ++ ",js" ++ name ++ ";"

end WorldZone

end RobotProgram
