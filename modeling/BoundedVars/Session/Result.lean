import BoundedVars.Session.Delivery

/-!
# Results

What a request leads to is shown in the answer of its step and may be saved under a name.  A result
is a value, something that is only shown, or the report on a series of writes; only values can be
saved.
-/

namespace BoundedVars

/-- What a request leads to. -/
inductive Result where
  | value (v : Value)
  | datum (d : Datum)
  | filled (done : Nat) (failed : List (Int × Complaint))

namespace Result

/-- No result of interest. -/
def nothing : Result := .value .none

/-- A text. -/
def ofText (s : String) : Result := .value (.text s)

/-- A text, or nothing. -/
def ofText? (text : Option String) : Result :=
  .value (match text with
    | some s => .text s
    | none => .none)

/-- A truth value. -/
def ofBool (b : Bool) : Result := .value (.bool b)

/-- A number of things. -/
def ofCount (n : Nat) : Result := .value (.int n)

/-- A list of texts. -/
def ofTexts (texts : List String) : Result := .datum (.list (texts.map .text))

/-- A result as its answer shows it. -/
def answer : Result → Run Answer
  | value v => do return .datum (← Run.datum v)
  | datum d => return .datum d
  | filled done failed => return .filled done failed

end Result

namespace Run

/-- A list of values, shown. -/
def listed (vs : List Value) : Run Result := do
  return .datum (.list (← vs.mapM datum))

/-- A collection without order, shown. -/
def collection (vs : List Value) : Run Result := do
  return .datum (.set (← vs.mapM datum))

/-- A list of entries, shown as pairs. -/
def listedPairs (entries : List (Value × Value)) : Run Result := do
  return .datum (.list (← entries.mapM fun e => do return .tuple [← datum e.1, ← datum e.2]))

end Run

end BoundedVars
