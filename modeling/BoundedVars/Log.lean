import BoundedVars.Failure
import BoundedVars.Text.Case.Upper

/-!
# The log

The library reports what it does in messages of three severities.  A message is recorded when its
severity reaches the level of the log; a level of zero leaves the decision to a fixed outer level.
Recorded messages are rendered as markup, so a recorded message that is bad markup is a failure of
the call that logged it (`Log.check`).
-/

namespace BoundedVars

/-- How serious a message is. -/
inductive Severity where
  | debug
  | warning
  | error
  deriving Repr, DecidableEq

namespace Severity

/-- The place of a severity on the scale of levels. -/
def level : Severity → Int
  | debug => 10
  | warning => 30
  | error => 40

/-- The name of a severity. -/
def name : Severity → String
  | debug => "DEBUG"
  | warning => "WARNING"
  | error => "ERROR"

end Severity

namespace Log

/-- The level of the log at the start, and of the outer log throughout. -/
def outerLevel : Int := 30

/-- The names of levels. -/
def levelNames : List (String × Int) :=
  [("CRITICAL", 50), ("FATAL", 50), ("ERROR", 40), ("WARNING", 30), ("WARN", 30), ("INFO", 20),
   ("DEBUG", 10), ("NOTSET", 0)]

/-- The level of a name, in capitals or small letters. -/
def levelOfName (name : String) : Except Failure Int :=
  let capitals := Text.upper name
  match levelNames.lookup capitals with
  | some level => .ok level
  | none => .error (.levelUnknown (Text.quoted capitals))

/-- The level that decides, when the log is set to `level`. -/
def effectiveLevel (level : Int) : Int :=
  if level = 0 then outerLevel else level

/-- A log set to `level` records messages of this severity. -/
def records (level : Int) (severity : Severity) : Bool :=
  effectiveLevel level ≤ severity.level

/-- Renders a recorded message. -/
def check (message : String) : Except Failure Unit :=
  match Markup.render message with
  | .ok () => .ok ()
  | .error fault => .error (.markup fault)

end Log

end BoundedVars
