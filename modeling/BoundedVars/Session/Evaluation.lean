import BoundedVars.Session.State

/-!
# Evaluating terms

`Term.eval` makes the value that a term describes, from left to right.  Values are new each time,
unless a term mentions one saved earlier.
-/

namespace BoundedVars

/-- The integer that decimal digits make, which must not be too many. -/
def Value.ofNumeral (n : Int) : Except Failure Value :=
  let digits := (decimal n.natAbs).length
  if Numeral.maxDigits < digits then .error (.numeral (.tooManyDigits digits)) else .ok (.int n)

/-- The text of a value that should be one. -/
def Value.textContent : Value → String
  | .text s => s
  | _ => ""

mutual

/-- The value that a term describes. -/
def Term.eval : Term → Run Value
  | .none => return .none
  | .bool b => return .bool b
  | .int n => Run.ofExcept (Value.ofNumeral n)
  | .text s => return .text s
  | .float x => return .float (← Run.freshSerial) x
  | .bytes bs => return .bytes (← Run.freshSerial) bs
  | .list items => return .list (← Run.freshSerial) (← Term.evalAll items)
  | .tuple items => return .tuple (← Run.freshSerial) (← Term.evalAll items)
  | .dict entries => do
    let entries ← Term.evalEntries .empty entries
    Run.allocate fun h => h.newDict false entries
  | .attributed data => do
    let data ← data.eval
    let entries ← Run.read fun h => h.putEntries .empty data
    Run.allocate fun h => h.newDict true entries
  | .view data => do
    let data ← data.eval
    return .view (← Run.freshSerial) (← Run.read fun h => h.copyEntries data).entries
  | .limits named => do
    let named ← Term.evalNamed named
    Run.ofExcept (Value.makeLimits (← Run.freshSerial) [] named)
  | .repeated term times => do
    let s := (← term.eval).textContent
    return .text (String.join (List.replicate times.toNat s))
  | .joined texts => do
    return .text (String.join ((← Term.evalAll texts).map Value.textContent))
  | .context data => do
    let data ← data.eval
    let attributes ← Run.read fun h => h.copyEntries data
    Run.allocate fun h => h.newContext attributes
  | .raising message => return .raising (← Run.freshSerial) message
  | .notCallable => return .notCallable (← Run.freshSerial)
  | .plain => return .plain (← Run.freshSerial)
  | .saved name => Run.saved name

/-- The values that terms describe. -/
def Term.evalAll : List Term → Run (List Value)
  | [] => return []
  | term :: rest => do
    let v ← term.eval
    return v :: (← Term.evalAll rest)

/-- Writes the entries that pairs of terms describe. -/
def Term.evalEntries (entries : Entries) : List (Term × Term) → Run Entries
  | [] => return entries
  | (key, value) :: rest => do
    let key ← key.eval
    let value ← value.eval
    Term.evalEntries (← Run.ofExcept (entries.put key value)) rest

/-- The values that terms with names describe. -/
def Term.evalNamed : List (String × Term) → Run (List (String × Value))
  | [] => return []
  | (name, term) :: rest => do
    let v ← term.eval
    return (name, v) :: (← Term.evalNamed rest)

end

/-- The value that an optional term describes; without a term it is nothing. -/
def Term.evalOption : Option Term → Run Value
  | some term => term.eval
  | Option.none => return .none

end BoundedVars
