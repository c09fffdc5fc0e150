import RobotProgram.Literal.Basic
import RobotProgram.Error
/-!
# RobotProgram.Motion.Catalog

Catalogs of predefined speed and zone data. A catalog is a list of entries, each a level (a
speed in mm/s, a zone radius in mm) and the symbol of the predefined data with that level,
such as `v100` or `z10`. A motion parameter is either a symbol, passed through, or a level,
which is quantized to the symbol of the nearest entry.

Quantizing walks the entries in order and keeps the first entry of least distance: a later
entry replaces the best so far only if it is strictly nearer, so on an exact tie the earlier
(lower) entry stays. A comparison with a NaN distance is false, so such an entry always
replaces the best so far.

A catalog built by `MotionCatalog.new` has at least one entry, finite levels and strictly
ascending levels; the check reports the first broken rule in that order.
-/

namespace RobotProgram

/-- A level and the symbol of the predefined data for it. -/
structure CatalogEntry where
  level : Float
  symbol : String
deriving Repr, Inhabited

namespace CatalogEntry

/-- The entry whose symbol is the prefix followed by the level's number text. -/
def prefixed (pref : String) (level : Float) : CatalogEntry :=
  ⟨level, pref ++ numberText level⟩

end CatalogEntry

/-- The speeds of the standard `v` data, in mm/s. -/
def standardSpeedLevels : List Float :=
  [5, 10, 20, 30, 40, 50, 60, 80, 100, 150, 200, 300, 400, 500, 600, 800, 1000, 1500, 2000,
    2500, 3000, 4000, 5000, 6000, 7000]

/-- The radii of the standard `z` data, in mm. -/
def standardZoneLevels : List Float :=
  [0, 1, 5, 10, 15, 20, 30, 40, 50, 60, 80, 100, 150, 200]

/-- The best entry so far after looking at one more entry: it is replaced unless the new
distance is at least the best distance. -/
def nearerEntry (value : Float) (best : Option (CatalogEntry × Float)) (entry : CatalogEntry) :
    Option (CatalogEntry × Float) :=
  let distance := Float.abs (entry.level - value)
  match best with
  | some (b, bestDistance) => if distance ≥ bestDistance then some (b, bestDistance)
    else some (entry, distance)
  | none => some (entry, distance)

/-- The symbol of the entry nearest to a finite value; the earlier entry wins a tie. -/
def quantize (entries : List CatalogEntry) (value : Float) : Except Error String :=
  if !value.isFinite then .error (.invalidLevel value)
  else
    match entries.foldl (nearerEntry value) none with
    | some (entry, _) => .ok entry.symbol
    | none => .error (.invalidCatalog "catalog has no levels")

/-- Every level is below the next one. -/
def strictlyAscending : List Float → Bool
  | a :: b :: rest => a < b && strictlyAscending (b :: rest)
  | _ => true

/-- The rules of a catalog, the first broken one reported: at least one entry, finite levels,
strictly ascending levels. -/
def checkCatalog (entries : List CatalogEntry) : Except Error Unit :=
  if entries.isEmpty then .error (.invalidCatalog "catalog has no levels")
  else match entries.find? (fun e => !e.level.isFinite) with
    | some bad => .error (.invalidCatalog s!"level for '{bad.symbol}' is not finite")
    | none =>
      if strictlyAscending (entries.map (·.level)) then .ok ()
      else .error (.invalidCatalog "levels must be strictly ascending")

/-- A catalog that keeps the rules of `checkCatalog`. -/
structure MotionCatalog where
  entries : List CatalogEntry
  checked : (checkCatalog entries).toBool = true

namespace MotionCatalog

/-- A catalog of the given entries, if they keep the rules. -/
def new (entries : List CatalogEntry) : Except Error MotionCatalog :=
  match h : checkCatalog entries with
  | .ok () => .ok ⟨entries, by rw [h]; rfl⟩
  | .error e => .error e

/-- A catalog whose symbols are the prefix followed by each level's number text. -/
def ofLevels (pref : String) (levels : List Float) : Except Error MotionCatalog :=
  new (levels.map (CatalogEntry.prefixed pref))

/-- The standard speed data `v5` to `v7000`. -/
def standardSpeeds : MotionCatalog :=
  ⟨standardSpeedLevels.map (CatalogEntry.prefixed "v"), by decide +kernel⟩

/-- The standard zone data `z0` to `z200`. -/
def standardZones : MotionCatalog :=
  ⟨standardZoneLevels.map (CatalogEntry.prefixed "z"), by decide +kernel⟩

/-- The symbol of the entry nearest to a finite value. -/
def quantize (c : MotionCatalog) (value : Float) : Except Error String :=
  RobotProgram.quantize c.entries value

end MotionCatalog

/-- A speed or zone as a program states it: a symbol, or a level to quantize. -/
inductive MotionParameter where
  | level (value : Float)
  | symbol (name : String)
deriving Repr, Inhabited

/-- The symbol a parameter stands for in a catalog. -/
def MotionParameter.resolve (c : MotionCatalog) : MotionParameter → Except Error String
  | .level value => c.quantize value
  | .symbol name => .ok name

end RobotProgram
