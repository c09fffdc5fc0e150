import RobotProgram.Motion.Catalog
import RobotProgram.Program.Compile
import RobotProgram.Tracking.Window
import RobotProgram.Text.Blank
import RobotProgram.Toml.Print
/-!
# RobotProgram.Config.Settings

The settings of program synthesis and controller sessions, their defaults, the rules a usable
set of settings keeps, and their text.

Every setting has a default, so that no source is needed at all. The rules, checked in this
order, the first broken one being reported:

1. the log level is one of `trace`, `debug`, `info`, `warn`, `error` (lowercase);
2. the task and the module name are not blank;
3. the speed levels, then the zone levels, make a catalog: not empty, finite, strictly
   ascending;
4. the streaming window has a slot, and `retire_margin ≤ feed_margin < window`.
-/

namespace RobotProgram

/-- Application-wide settings. -/
structure ApplicationSettings where
  name : String := "rust_toro"
  logLevel : String := "info"
deriving Repr

/-- Where the controller session goes and what it writes. -/
structure ControllerSettings where
  task : String := "T_ROB1"
  module : String := "MainModule"
  programFile : String := "MainProgram.pgf"
  user : String := "Default User"
  password : String := "robotics"
deriving Repr

/-- The speed and zone levels. -/
structure CatalogSettings where
  speeds : List Float := standardSpeedLevels
  zones : List Float := standardZoneLevels
deriving Repr

/-- The streaming ring. -/
structure StreamingSettings where
  window : Nat := 8
  feedMargin : Nat := 2
  retireMargin : Nat := 1
deriving Repr

/-- All settings. -/
structure Settings where
  application : ApplicationSettings := {}
  controller : ControllerSettings := {}
  catalog : CatalogSettings := {}
  streaming : StreamingSettings := {}
deriving Repr

namespace Settings

/-- The log level names accepted. -/
def logLevels : List String := ["trace", "debug", "info", "warn", "error"]

/-- A library error as the detail of a broken rule of one section. -/
def sectionError (part : String) (e : Error) : ConfigError :=
  let detail := match e with
    | .invalidCatalog d | .configuration d => d
    | other => other.message
  .validation (part ++ ": " ++ detail)

/-- The speed catalog. -/
def speedCatalog (s : Settings) : Except ConfigError MotionCatalog :=
  (MotionCatalog.ofLevels "v" s.catalog.speeds).mapError (sectionError "catalog.speeds")

/-- The zone catalog. -/
def zoneCatalog (s : Settings) : Except ConfigError MotionCatalog :=
  (MotionCatalog.ofLevels "z" s.catalog.zones).mapError (sectionError "catalog.zones")

/-- The compiler with the configured catalogs. -/
def compiler (s : Settings) : Except ConfigError TargetCompiler := do
  pure { speeds := ← s.speedCatalog, zones := ← s.zoneCatalog }

/-- The streaming ring parameters. -/
def windowConfig (s : Settings) : WindowConfig :=
  { window := s.streaming.window, feedMargin := s.streaming.feedMargin,
    retireMargin := s.streaming.retireMargin }

/-- Checks the rules above. -/
def validate (s : Settings) : Except ConfigError Unit := do
  if !logLevels.contains s.application.logLevel then
    throw (.validation ("Invalid log_level '" ++ s.application.logLevel ++
      "'. Must be one of: " ++ ", ".intercalate logLevels))
  if (Text.trimBlank s.controller.task).isEmpty then
    throw (.validation "controller.task cannot be empty")
  if (Text.trimBlank s.controller.module).isEmpty then
    throw (.validation "controller.module cannot be empty")
  let _ ← s.speedCatalog
  let _ ← s.zoneCatalog
  s.windowConfig.validate.mapError (sectionError "streaming")

/-- The settings as TOML text. -/
def toToml (s : Settings) : String :=
  Toml.render [
    ⟨"application", [("name", .text s.application.name), ("log_level", .text s.application.logLevel)]⟩,
    ⟨"controller", [("task", .text s.controller.task), ("module", .text s.controller.module),
      ("program_file", .text s.controller.programFile), ("user", .text s.controller.user),
      ("password", .text s.controller.password)]⟩,
    ⟨"catalog", [("speeds", .floats s.catalog.speeds), ("zones", .floats s.catalog.zones)]⟩,
    ⟨"streaming", [("window", .natural s.streaming.window),
      ("feed_margin", .natural s.streaming.feedMargin),
      ("retire_margin", .natural s.streaming.retireMargin)]⟩]

end Settings

end RobotProgram
