import RobotProgram.Config.Settings
import RobotProgram.Config.Layer
import RobotProgram.Toml.Document
/-!
# RobotProgram.Config.Load

Loading settings: the TOML file (absent means empty), then the `TORO_` environment variables
over it, read into `Settings` with defaults for whatever is not given, then checked.

A file that is not valid TOML is reported with the TOML failure and the file's name; a value of
the wrong shape with its key and source; a broken rule as such. Keys nobody reads are ignored.
-/

namespace RobotProgram

namespace Settings

open Setting

/-- Reads the application section. -/
def readApplication (v : Setting) : Except LoadError ApplicationSettings :=
  v.asRecord "struct ApplicationConfig" {} [
    ("name", fun s x => return { s with name := ← x.asText }),
    ("log_level", fun s x => return { s with logLevel := ← x.asText })]

/-- Reads the controller section. -/
def readController (v : Setting) : Except LoadError ControllerSettings :=
  v.asRecord "struct ControllerConfig" {} [
    ("task", fun s x => return { s with task := ← x.asText }),
    ("module", fun s x => return { s with module := ← x.asText }),
    ("program_file", fun s x => return { s with programFile := ← x.asText }),
    ("user", fun s x => return { s with user := ← x.asText }),
    ("password", fun s x => return { s with password := ← x.asText })]

/-- Reads the catalog section. -/
def readCatalog (v : Setting) : Except LoadError CatalogSettings :=
  v.asRecord "struct CatalogConfig" {} [
    ("speeds", fun s x => return { s with speeds := ← x.asFloats }),
    ("zones", fun s x => return { s with zones := ← x.asFloats })]

/-- Reads the streaming section. -/
def readStreaming (v : Setting) : Except LoadError StreamingSettings :=
  v.asRecord "struct StreamingConfig" {} [
    ("window", fun s x => return { s with window := ← x.asSize }),
    ("feed_margin", fun s x => return { s with feedMargin := ← x.asSize }),
    ("retire_margin", fun s x => return { s with retireMargin := ← x.asSize })]

/-- Reads all settings from merged values. -/
def read (v : Setting) : Except LoadError Settings :=
  v.asRecord "struct ToroConfig" {} [
    ("application", fun s x => return { s with application := ← readApplication x }),
    ("controller", fun s x => return { s with controller := ← readController x }),
    ("catalog", fun s x => return { s with catalog := ← readCatalog x }),
    ("streaming", fun s x => return { s with streaming := ← readStreaming x })]

/-- Loads settings from a file of that name and text (`none` when there is no such file) and
environment variables, then checks them. -/
def load (fileName : String) (fileText : Option String) (env : List (String × String)) :
    Except ConfigError Settings := do
  let fileValues ← match fileText with
    | none => pure (Setting.dict (.file fileName) [])
    | some raw =>
      match Toml.parse raw with
      | .ok doc => pure (Setting.ofToml (.file fileName) doc)
      | .error e => throw (.load (e.render raw ++ " in " ++ (Source.file fileName).describe))
  let merged := fileValues.merge (Setting.ofEnvironment "TORO_" env)
  let settings ← (read merged).mapError fun e => .load e.message
  settings.validate
  pure settings

end Settings

end RobotProgram
