import BoundedVars.Change
import BoundedVars.Limits
import BoundedVars.Log
import BoundedVars.Table

/-!
# The store

A store keeps text variables in two tiers: global ones, seen by everybody, and those of each
script, seen under the name of the script.  Both are bounded.  Inserting past a bound fails and
evicts nothing; a variable that is present can always be overwritten.  Writing *nothing* removes a
variable, and a script without variables is dropped from the table of scripts.

Every operation that can change a store is a function to an `Outcome`: the store afterwards, the
notices it gives, in order, and its result.  An operation checks its arguments before it looks at
the store, changes the store in one step, and gives its notices last; whoever carries it out
records the messages and announces the changes.  `Store.Operation` lists these operations with
their arguments, and `Store.outcome` is what each of them does.
-/

namespace BoundedVars

/-- The variables of a compartment. -/
abbrev Vars := Table String String

/-- A store.  Its limits are whatever it was made with. -/
structure Store where
  limits : Value
  globals : Vars
  scripts : Table String Vars

/-- What an operation has to tell: a message for the log, or a change to announce. -/
inductive Notice where
  | log (severity : Severity) (message : String)
  | change (change : Change)
  deriving Repr, DecidableEq

/-- The store after an operation, its notices in order, and its result, which counts once the
notices have been given. -/
structure Outcome where
  store : Store
  notices : List Notice
  result : Except Failure Unit

namespace Store

/-- A store without variables. -/
def new (limits : Value) : Store := ⟨limits, .empty, .empty⟩

instance : Inhabited Store := ⟨new (Limits.default.toValue 0)⟩

/-- The summary of a store. -/
def summary (s : Store) : String :=
  "VariableStore(global_vars=" ++ decimal s.globals.size ++ ", scripts=" ++ decimal s.scripts.size
    ++ ")"

/-- The bound that a limit of the store sets on lengths. -/
def lengthBound (s : Store) (which : Limit) : Except Failure Bound := do
  (← s.limits.limit which).asBound ">"

/-! ### Arguments -/

/-- A key: text, not empty and not too long. -/
def checkKey (s : Store) : Value → Except Failure String
  | .none => throw .keyMissing
  | .text key => do
    if key = "" then throw .keyMissing
    let bound ← s.lengthBound .maxKeySize
    if bound.exceededBy key.length then throw (.keyTooLong key (← bound.text))
    return key
  | other => throw (.keyNotText other.kind)

/-- What to write: nothing, or a text that is not too long. -/
def checkValue (s : Store) : Value → Except Failure (Option String)
  | .none => return none
  | .text value => do
    let bound ← s.lengthBound .maxValueSize
    if bound.exceededBy value.length then throw (.valueTooLong (← bound.text))
    return some value
  | other => throw (.valueNotText other.kind)

/-- The name of a script: text, and not empty. -/
def checkScript : Value → Except Failure String
  | .none => throw .scriptMissing
  | .text name => if name = "" then throw .scriptMissing else return name
  | other => throw (.scriptNotText other.kind)

/-! ### Compartments -/

/-- The variables of a compartment; a script that is not in the table has none. -/
def vars (s : Store) : Compartment → Vars
  | .global => s.globals
  | .script name => (s.scripts.get? name).getD .empty

/-- The store with other variables in a compartment.  A script left without any is dropped. -/
def withVars (s : Store) (place : Compartment) (vars : Vars) : Store :=
  match place with
  | .global => { s with globals := vars }
  | .script name =>
    { s with
      scripts := if vars.isEmpty then s.scripts.erase name else s.scripts.insert name vars }

/-- A compartment holds the variables given to it, dropped or not. -/
@[simp] theorem vars_withVars_self (s : Store) (place : Compartment) (vars : Vars) :
    (s.withVars place vars).vars place = vars := by
  cases place with
  | global => rfl
  | script name =>
    by_cases h : vars.isEmpty
    · have hd : ((s.scripts.erase name).get? name).getD .empty = vars := by
        rw [Table.get?_erase_self, Table.eq_empty_of_isEmpty h, Option.getD_none]
      simpa [withVars, Store.vars, h] using hd
    · simp [withVars, Store.vars, h, Table.get?_insert_self]

/-- The other compartments keep their variables. -/
theorem vars_withVars_of_ne (s : Store) {place other : Compartment} (vars : Vars)
    (h : other ≠ place) : (s.withVars place vars).vars other = s.vars other := by
  cases place with
  | global =>
    cases other with
    | global => exact absurd rfl h
    | script name => rfl
  | script name =>
    cases other with
    | global => rfl
    | script name' =>
      have hn : name' ≠ name := fun e => h (e ▸ rfl)
      by_cases hv : vars.isEmpty <;>
        simp [withVars, Store.vars, hv, Table.get?_erase_of_ne, Table.get?_insert_of_ne, hn]

/-- The limit on the number of variables of a compartment. -/
def capacityLimit : Compartment → Limit
  | .global => .maxGlobalVars
  | .script _ => .maxScriptVars

/-! ### Messages -/

/-- The message about a rejected variable; `shown` is the bound that it would go past. -/
def rejectedMessage (place : Compartment) (key shown : String) : String :=
  "Rejected variable '" ++ Markup.escape key ++ "': " ++ Markup.escape place.text
    ++ " already holds " ++ shown ++ " variables"

/-- The message about a variable written. -/
def setMessage (place : Compartment) (key : String) : String :=
  "Set " ++ place.scope ++ " variable '" ++ Markup.escape key ++ "'" ++ place.suffix

/-- The message about a variable removed. -/
def removedMessage (place : Compartment) (key : String) : String :=
  "Removed " ++ place.scope ++ " variable '" ++ Markup.escape key ++ "'" ++ place.suffix

/-- The message about the variables of a script cleared. -/
def clearedScriptMessage (name : String) : String :=
  "Cleared variables of script '" ++ Markup.escape name ++ "'"

/-! ### Writing -/

/-- An operation that fails without having changed or told anything. -/
def refuse (s : Store) (failure : Failure) : Outcome := ⟨s, [], .error failure⟩

/-- An operation that succeeds. -/
def accept (s : Store) (notices : List Notice) : Outcome := ⟨s, notices, .ok ()⟩

/-- Rejects a variable for which there is no room.  All that is said about it shows the bound, so
nothing is said of a bound that cannot be spelled. -/
def reject (s : Store) (place : Compartment) (key : String) (bound : Bound) : Outcome :=
  match bound.text with
  | .error failure => s.refuse failure
  | .ok shown =>
    ⟨s, [.log .warning (rejectedMessage place key shown)], .error (.full place shown)⟩

/-- Inserts or overwrites a variable, if there is room for it. -/
def put (s : Store) (place : Compartment) (key value : String) (capacity : Value) : Outcome :=
  let vars := s.vars place
  let written := accept (s.withVars place (vars.insert key value))
    [.log .debug (setMessage place key), .change (.set place key value)]
  if vars.contains key then written
  else
    match capacity.asBound ">=" with
    | .error failure => s.refuse failure
    | .ok bound =>
      if bound.reachedBy vars.size then s.reject place key bound else written

/-- Removes a variable, if it is there. -/
def remove (s : Store) (place : Compartment) (key : String) : Outcome :=
  let vars := s.vars place
  if vars.contains key then
    accept (s.withVars place (vars.erase key))
      [.log .debug (removedMessage place key), .change (.removed place key)]
  else accept s []

/-- Writes a variable, or removes it when there is nothing to write. -/
def write (s : Store) (place : Compartment) (key : String) (value : Option String) : Outcome :=
  match s.limits.limit (capacityLimit place) with
  | .error failure => s.refuse failure
  | .ok capacity =>
    match value with
    | some value => s.put place key value capacity
    | none => s.remove place key

/-- Checks key and value and writes. -/
def writeChecked (s : Store) (place : Compartment) (key value : Value) : Outcome :=
  match (do return (← s.checkKey key, ← s.checkValue value) : Except Failure _) with
  | .ok (key, value) => s.write place key value
  | .error failure => s.refuse failure

/-- Writes or removes a global variable. -/
def setGlobal (s : Store) (key value : Value) : Outcome :=
  s.writeChecked .global key value

/-- Writes or removes a variable of a script. -/
def setScript (s : Store) (script key value : Value) : Outcome :=
  match checkScript script with
  | .ok name => s.writeChecked (.script name) key value
  | .error failure => s.refuse failure

/-- Removes all global variables. -/
def clearGlobals (s : Store) : Outcome :=
  if s.globals.isEmpty then s.accept []
  else accept { s with globals := .empty }
    [.log .debug "Cleared global variables", .change .clearedGlobals]

/-- Removes all variables of a script.  A name that is no text names no script, but while there are
scripts it has to be something that could name an entry. -/
def clearScript (s : Store) (script : Value) : Outcome :=
  if s.scripts.isEmpty then s.accept []
  else
    match script.unhashable? with
    | some kind => s.refuse (.unhashable kind)
    | none =>
      match script with
      | .text name =>
        if s.scripts.contains name then
          accept { s with scripts := s.scripts.erase name }
            [.log .debug (clearedScriptMessage name), .change (.clearedScript name)]
        else s.accept []
      | _ => s.accept []

/-- Removes all variables, in one step, and announces each tier that held some. -/
def clear (s : Store) : Outcome :=
  accept { s with globals := .empty, scripts := .empty }
    (.log .debug "Cleared all variables"
      :: ((if s.globals.isEmpty then [] else [.change .clearedGlobals])
        ++ (if s.scripts.isEmpty then [] else [.change .clearedScripts])))

/-- An operation that can change a store, with its arguments. -/
inductive Operation where
  | setGlobal (key value : Value)
  | clearGlobals
  | setScript (script key value : Value)
  | clearScript (script : Value)
  | clear

/-- What an operation does to a store. -/
def outcome (s : Store) : Operation → Outcome
  | .setGlobal key value => s.setGlobal key value
  | .clearGlobals => s.clearGlobals
  | .setScript script key value => s.setScript script key value
  | .clearScript script => s.clearScript script
  | .clear => s.clear

/-! ### Reading -/

/-- A global variable; an argument that is no text names none. -/
def getGlobal (s : Store) : Value → Option String
  | .text key => s.globals.get? key
  | _ => none

/-- The variables of a script; an argument that is no text names no script. -/
def scriptVars (s : Store) : Value → Vars
  | .text name => s.vars (.script name)
  | _ => .empty

/-- A variable of a script. -/
def getScript (s : Store) (script : Value) : Value → Option String
  | .text key => (s.scriptVars script).get? key
  | _ => none

/-- The names of the scripts that have variables. -/
def scriptNames (s : Store) : List String :=
  s.scripts.keys

end Store

/-- Variables as a read-only view. -/
def Vars.toView (vars : Vars) (serial : Nat) : Value :=
  .view serial (vars.entries.map fun e => (.text e.1, .text e.2))

namespace Store

/-- All variables of a store as a read-only view, which gets the serial number `serial`; the views
in it get those that follow. -/
def snapshot (s : Store) (serial : Nat) : Value :=
  .view serial [(.text "global", s.globals.toView (serial + 1)),
    (.text "scripts", .view (serial + 2) (s.scripts.entries.zipIdx.map fun (e, i) =>
      (.text e.1, Vars.toView e.2 (serial + 3 + i))))]

/-- The number of views in a snapshot. -/
def snapshotSize (s : Store) : Nat :=
  3 + s.scripts.size

end Store

end BoundedVars
