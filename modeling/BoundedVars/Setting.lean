import BoundedVars.Limits
import BoundedVars.Text.Case.Upper

/-!
# Settings

The settings of the library are the four limits and the level of the log.  Each has a key in
configurations, a default, a line of help, and a name in the environment: the common beginning and
the key in capitals.
-/

namespace BoundedVars

/-- A setting. -/
inductive Setting where
  | limit (limit : Limit)
  | logLevel
  deriving Repr, DecidableEq

namespace Setting

/-- All settings, in their order. -/
def all : List Setting := Limit.all.map limit ++ [logLevel]

/-- The key of a setting in configurations. -/
def key : Setting → String
  | limit l => l.key
  | logLevel => "log_level"

/-- What a setting is when it is not set. -/
def default : Setting → Value
  | limit l => .int l.default
  | logLevel => .text "WARNING"

/-- What a setting is for. -/
def help : Setting → String
  | limit .maxGlobalVars => "Maximum number of global variables"
  | limit .maxScriptVars => "Maximum number of variables per script"
  | limit .maxKeySize => "Maximum length of a variable key"
  | limit .maxValueSize => "Maximum length of a variable value"
  | logLevel => "Logging level"

/-- How the names of all settings begin in the environment. -/
def environmentStart : String := "SCRIPTVARS_"

/-- The name of a setting among the settings, its key in capitals. -/
def name (s : Setting) : String :=
  Text.upper s.key

/-- The name of a setting in the environment. -/
def environmentName (s : Setting) : String :=
  environmentStart ++ s.name

/-- The setting of a name. -/
def ofName (name : String) : Except Failure Setting :=
  match all.find? (·.name == name) with
  | some setting => .ok setting
  | none => .error (.noSetting name)

/-- The defaults of all settings. -/
def defaults : List (Value × Value) :=
  all.map fun s => (.text s.key, s.default)

end Setting

end BoundedVars
