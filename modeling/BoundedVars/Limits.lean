import BoundedVars.Bound

/-!
# Limits

A store is bounded in four ways: the number of global variables, the number of variables of each
script, and the lengths of keys and of values.  `Limit` names the four, `Limits` holds an integer
for each.  A store keeps whatever it was given as its limits, unchecked; `Value.limit` reads one of
them when it is needed.
-/

namespace BoundedVars

/-- The four ways in which a store is bounded. -/
inductive Limit where
  | maxGlobalVars
  | maxScriptVars
  | maxKeySize
  | maxValueSize
  deriving Repr, DecidableEq

namespace Limit

/-- All limits, in their order. -/
def all : List Limit := [maxGlobalVars, maxScriptVars, maxKeySize, maxValueSize]

/-- The name of a limit in configurations and messages. -/
def key : Limit → String
  | maxGlobalVars => "max_global_vars"
  | maxScriptVars => "max_script_vars"
  | maxKeySize => "max_key_size"
  | maxValueSize => "max_value_size"

/-- The limit that holds when none is set. -/
def default : Limit → Int
  | maxGlobalVars => 50
  | maxScriptVars => 50
  | maxKeySize => 30
  | maxValueSize => 10000

/-- The limit of a name. -/
def ofKey? (name : String) : Option Limit :=
  all.find? (·.key == name)

end Limit

/-- An integer for each limit. -/
structure Limits where
  maxGlobalVars : Int
  maxScriptVars : Int
  maxKeySize : Int
  maxValueSize : Int
  deriving Repr, DecidableEq

namespace Limits

/-- One of the limits. -/
def get (l : Limits) : Limit → Int
  | .maxGlobalVars => l.maxGlobalVars
  | .maxScriptVars => l.maxScriptVars
  | .maxKeySize => l.maxKeySize
  | .maxValueSize => l.maxValueSize

/-- Limits given one by one. -/
def of (f : Limit → Int) : Limits :=
  ⟨f .maxGlobalVars, f .maxScriptVars, f .maxKeySize, f .maxValueSize⟩

/-- The limits that hold when none are set. -/
def default : Limits := of Limit.default

/-- Limits as a value. -/
def toValue (l : Limits) (serial : Nat) : Value :=
  .limits serial (.int l.maxGlobalVars) (.int l.maxScriptVars) (.int l.maxKeySize)
    (.int l.maxValueSize)

@[simp] theorem get_of (f : Limit → Int) (limit : Limit) : (of f).get limit = f limit := by
  cases limit <;> rfl

end Limits

namespace Value

/-- Limits put together from a value for each. -/
def limitsOf (serial : Nat) (f : Limit → Value) : Value :=
  limits serial (f .maxGlobalVars) (f .maxScriptVars) (f .maxKeySize) (f .maxValueSize)

/-- Reads a limit of a value, which should be limits. -/
def limit (source : Value) (which : Limit) : Except Failure Value :=
  match source with
  | limits _ a b c d =>
    .ok (match which with
      | .maxGlobalVars => a
      | .maxScriptVars => b
      | .maxKeySize => c
      | .maxValueSize => d)
  | other => .error (.noAttribute other.kind which.key)

/-- The bound that a value sets; `sign` is the comparison for which it is needed. -/
def asBound (value : Value) (sign : String) : Except Failure Bound :=
  match value.bound? with
  | some bound => .ok bound
  | Option.none => .error (.unordered sign value.kind)

/-- The name for the kind of limits itself, which is taken before any limit is given. -/
def reservedName : String := "_cls"

/-- Puts limits together from values given in order and values given by name; a limit not given is
at its default.  A wrong name counts before too many values do. -/
def makeLimits (serial : Nat) (given : List Value) (named : List (String × Value)) :
    Except Failure Value := do
  let inOrder := Limit.all.zip given
  for (name, _) in named do
    if name = reservedName then throw (.limitTwice name)
    match Limit.ofKey? name with
    | Option.none => throw (.limitUnknown name)
    | some limit =>
      if inOrder.any (·.1 == limit) then throw (.limitTwice name)
  if 4 < given.length then throw (.tooManyLimits given.length)
  return limitsOf serial fun limit =>
    match inOrder.lookup limit <|> named.lookup limit.key with
    | some value => value
    | Option.none => .int limit.default

@[simp] theorem limit_toValue (l : Limits) (serial : Nat) (which : Limit) :
    (l.toValue serial).limit which = .ok (.int (l.get which)) := by
  cases which <;> rfl

end Value

end BoundedVars
