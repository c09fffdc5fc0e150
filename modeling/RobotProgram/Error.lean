import RobotProgram.Decimal.Layout
/-!
# RobotProgram.Error

One error type for program synthesis and controller sessions. Each constructor is a cause;
its wording is in `Error.message` only, and `Error.kind` sorts the causes into five classes:

* validation: bad local input, found before any remote interaction (empty target list, empty
  catalog, missing local file, non-finite or non-unit pose, unreadable literal);
* session: logon failures, an unreachable controller, a controller not in automatic mode, an
  operation in the wrong session state;
* protocol: the controller answered but refused (unknown symbol, wrong data type, rejected
  module);
* io: local file failures;
* config: configuration loading and validation.

The operating mode a controller reports is here too, as session errors name it: only in
automatic mode may a remote client start execution.
-/

namespace RobotProgram

/-- The operating mode a controller reports. -/
inductive OperatingMode where
  /-- Starting up. -/
  | init
  /-- Automatic: remote clients may start execution. -/
  | auto
  /-- Manual, reduced speed. -/
  | manual
  /-- Manual, full speed. -/
  | manualFullSpeed
  /-- A change to automatic mode waits for acknowledgement. -/
  | autoChange
  /-- The mode could not be determined. -/
  | undefined
deriving Repr, DecidableEq, Inhabited

namespace OperatingMode

/-- The mode's name. -/
def name : OperatingMode → String
  | .init => "Init"
  | .auto => "Auto"
  | .manual => "Manual"
  | .manualFullSpeed => "ManualFullSpeed"
  | .autoChange => "AutoChange"
  | .undefined => "Undefined"

/-- Every mode, in declaration order. -/
def all : List OperatingMode := [.init, .auto, .manual, .manualFullSpeed, .autoChange, .undefined]

/-- The mode with the given name. -/
def ofName? (s : String) : Option OperatingMode := all.find? (·.name == s)

end OperatingMode

/-- The coarse class of an error. -/
inductive ErrorKind where
  | validation
  | session
  | protocol
  | io
  | config
deriving Repr, DecidableEq

/-- Why a configuration could not be used. -/
inductive ConfigError where
  /-- A source could not be read or its values do not have the expected shape. -/
  | load (detail : String)
  /-- The values were read but break a rule. -/
  | validation (detail : String)
deriving Repr, DecidableEq

/-- The text of a configuration error. -/
def ConfigError.message : ConfigError → String
  | .load detail => s!"Failed to load configuration: {detail}"
  | .validation detail => s!"Configuration validation failed: {detail}"

/-- Everything that can go wrong in the library. -/
inductive Error where
  | invalidCatalog (detail : String)
  | emptyTargetList
  | parameterListEmpty (parameter : String)
  | mismatchedTargets (via destinations : Nat)
  | invalidLevel (level : Float)
  | invalidPose (detail : String)
  | invalidLiteral (literal reason : String)
  | fileNotFound (path : String)
  | session (detail : String)
  | modeError (mode : OperatingMode)
  | invalidSessionState (operation required actual : String)
  | symbolNotFound (module name : String)
  | typeMismatch (name expected found : String)
  | loadRejected (file reason : String)
  | protocol (detail : String)
  | io (detail : String)
  | config (cause : ConfigError)
  | configuration (detail : String)
deriving Repr

namespace Error

/-- The class of an error. -/
def kind : Error → ErrorKind
  | .invalidCatalog _ | .emptyTargetList | .parameterListEmpty _ | .mismatchedTargets _ _
  | .invalidLevel _ | .invalidPose _ | .invalidLiteral _ _ | .fileNotFound _ => .validation
  | .session _ | .modeError _ | .invalidSessionState _ _ _ => .session
  | .symbolNotFound _ _ | .typeMismatch _ _ _ | .loadRejected _ _ | .protocol _ => .protocol
  | .io _ => .io
  | .config _ | .configuration _ => .config

/-- The text of an error. -/
def message : Error → String
  | .invalidCatalog detail => s!"Invalid catalog: {detail}"
  | .emptyTargetList => "Target list is empty"
  | .parameterListEmpty parameter => s!"Parameter list '{parameter}' is empty"
  | .mismatchedTargets via destinations =>
    s!"Target lists differ in length: {via} through-points vs {destinations} destinations"
  | .invalidLevel level =>
    s!"Invalid level {Layout.plainText level}: catalog levels must be finite"
  | .invalidPose detail => s!"Invalid pose: {detail}"
  | .invalidLiteral literal reason => s!"Invalid literal '{literal}': {reason}"
  | .fileNotFound path => s!"File not found: {path}"
  | .session detail => s!"Session error: {detail}"
  | .modeError mode =>
    "Automatic mode is required to start execution from a remote client (controller is in " ++
      mode.name ++ " mode)"
  | .invalidSessionState operation required actual =>
    s!"Operation '{operation}' requires {required}, session is {actual}"
  | .symbolNotFound module name => s!"Symbol '{name}' not found in module '{module}'"
  | .typeMismatch name expected found =>
    s!"Type mismatch writing '{name}': controller holds {expected}, value is {found}"
  | .loadRejected file reason => s!"Controller rejected '{file}': {reason}"
  | .protocol detail => s!"Controller error: {detail}"
  | .io detail => s!"I/O error: {detail}"
  | .config cause => cause.message
  | .configuration detail => s!"Configuration validation error: {detail}"

end Error

end RobotProgram
