import BoundedVars.Mapping
import BoundedVars.Number.Numeral
import BoundedVars.Text.Blank

/-!
# Configuration

Settings are read from configurations and from the environment.  A limit may be given as a number
or as a numeral, in text or bytes; it has to denote a positive integer, fractions being dropped.
What the environment says is checked when it is read, and again when it is used.
-/

namespace BoundedVars.Heap

variable (h : Heap)

/-- The integer that a value denotes, none if it denotes no integer.  An infinity is a failure. -/
def integer? (v : Value) : Except Failure (Option Int) :=
  match v with
  | .int n => .ok (some n)
  | .float _ (.finite negative significand exponent) =>
    .ok (some (Double.truncate negative significand exponent))
  | .float _ (.infinite _) => .error .infiniteInteger
  | .text s => .ok (Numeral.read? s.toList)
  | .bytes _ bytes => .ok (Numeral.readBytes? bytes)
  | _ => .ok none

/-- The value of a limit: a positive integer. -/
def coerceLimit (limit : Limit) (raw : Value) : Except Failure Int := do
  match ← integer? raw with
  | none => throw (.settingNotInteger limit.key (← h.written raw))
  | some n =>
    if n ≤ 0 then
      -- The message shows the integer, so it has to be one that can be written out.
      let _ ← writtenInteger n
      throw (.settingNotPositive limit.key n)
    else return n

/-- What a configuration says about a setting, or the default. -/
def setting (conf : Value) (s : Setting) : Except Failure Value :=
  h.get conf (.text s.key) s.default

/-- One of the limits that a configuration sets. -/
def configuredLimit (conf : Value) (limit : Limit) : Except Failure Int := do
  h.coerceLimit limit (← h.setting conf (.limit limit))

/-- The limits that a configuration sets, read in their order. -/
def configuredLimits (conf : Value) : Except Failure Limits := do
  return ⟨← h.configuredLimit conf .maxGlobalVars, ← h.configuredLimit conf .maxScriptVars,
    ← h.configuredLimit conf .maxKeySize, ← h.configuredLimit conf .maxValueSize⟩

/-- A text or bytes without the blanks around it. -/
def trimmed (v : Value) : Except Failure Value :=
  match v with
  | .text s => .ok (.text (String.ofList (Text.trim s.toList)))
  | .bytes serial bytes =>
    .ok (.bytes serial (Text.trimWhere (fun b => Text.isAsciiBlank b.toNat) bytes))
  | other => .error (.noAttribute other.kind "strip")

/-- What a setting becomes when the environment says `raw`. -/
def environmentValue (s : Setting) (raw : Value) : Except Failure Value := do
  let value ← trimmed raw
  match s with
  | .limit limit => return .int (← h.coerceLimit limit value)
  | .logLevel => return value

/-- The settings found in an environment; whatever else is in it counts for nothing. -/
def environmentOverrides (env : Value) : Except Failure Entries :=
  Setting.all.foldlM (fun (found : Entries) s => do
    match ← h.get env (.text s.environmentName) .none with
    | .none => return found
    | raw => return found.insert (.text s.key) (← h.environmentValue s raw)) .empty

/-- The level of the log that a value denotes: a name of a level, or a number. -/
def logLevel (v : Value) : Except Failure Int :=
  match v with
  | .text name => Log.levelOfName name
  | .int n => .ok n
  | .bool b => .ok (if b then 1 else 0)
  | other => do throw (.levelNotUsable (← h.written other))

end BoundedVars.Heap
