import BoundedVars.Failure
import BoundedVars.Markup.Escape

/-!
# Changes and their announcement

Whatever happens to the variables of a store is one of five `Change`s.  A change is announced by an
event: the name of the event and its payload say what was written, removed or cleared, and where.
-/

namespace BoundedVars

/-- Something that happened to the variables of a store. -/
inductive Change where
  /-- A variable was written. -/
  | set (place : Compartment) (key value : String)
  /-- A variable was removed. -/
  | removed (place : Compartment) (key : String)
  /-- All global variables were removed. -/
  | clearedGlobals
  /-- All variables of one script were removed. -/
  | clearedScript (name : String)
  /-- All variables of all scripts were removed. -/
  | clearedScripts
  deriving Repr, DecidableEq

namespace Compartment

/-- The scope that events give for a compartment. -/
def scope : Compartment → String
  | global => "global"
  | script _ => "script"

/-- The script that events give for a compartment. -/
def scriptName : Compartment → Value
  | global => .none
  | script name => .text name

/-- The end of a message about a variable of a compartment. -/
def suffix : Compartment → String
  | global => ""
  | script name => " of script '" ++ Markup.escape name ++ "'"

end Compartment

namespace Change

/-- The event that announces a variable written. -/
def setEvent : String := "var.set"

/-- The event that announces a variable removed. -/
def removedEvent : String := "var.removed"

/-- The event that announces variables cleared. -/
def clearedEvent : String := "vars.cleared"

/-- The event that announces a change. -/
def event : Change → String
  | set .. => setEvent
  | removed .. => removedEvent
  | clearedGlobals | clearedScript _ | clearedScripts => clearedEvent

/-- What the event says about the change. -/
def payload : Change → List (String × Value)
  | set place key value =>
    [("scope", .text place.scope), ("script_name", place.scriptName), ("key", .text key),
     ("value", .text value)]
  | removed place key =>
    [("scope", .text place.scope), ("script_name", place.scriptName), ("key", .text key)]
  | clearedGlobals => [("scope", .text "global"), ("script_name", .none)]
  | clearedScript name => [("scope", .text "script"), ("script_name", .text name)]
  | clearedScripts => [("scope", .text "script"), ("script_name", .none)]

end Change

end BoundedVars
