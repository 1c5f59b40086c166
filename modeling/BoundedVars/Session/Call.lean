import BoundedVars.Session.Result

/-!
# Calls

A `Call` is an operation or a question put to a store, with its arguments as values.  Those that
take a context ask it for the name of its script first; what they do then is what the call for that
script does.  `Run.call` carries out a call on the store at an address.
-/

namespace BoundedVars

/-- What can be asked of a store, with its arguments. -/
inductive Call where
  /-- Something that can change the store. -/
  | update (operation : Store.Operation)
  | updateFromContext (context key value : Value)
  | limits
  | getGlobal (key : Value)
  | getGlobals
  | getScript (script key : Value)
  | getScriptVars (script : Value)
  | getFromContext (context key : Value)
  | getVarsFromContext (context : Value)
  | scriptNames
  | snapshot
  | summary

namespace Run

/-- The script of a context. -/
def scriptOf (context : Value) : Run Value := do
  return .text (← read fun h => h.scriptName context)

/-- The variables of a script as a view; where there are none it is always the same one. -/
def viewOf (vars : Vars) : Run Result := do
  if vars.isEmpty then return .value Value.emptyView
  else return .value (vars.toView (← freshSerial))

/-- Carries out a call on the store at an address. -/
def call (react : Reactor) (address : Nat) : Call → Run Result
  | .update operation => do
    operate react address operation
    return .nothing
  | .updateFromContext context key value => do
    let script ← scriptOf context
    operate react address (.setScript script key value)
    return .nothing
  | .limits => do return .value ((← heap).store address).limits
  | .getGlobal key => do return .ofText? (((← heap).store address).getGlobal key)
  | .getGlobals => do
    let store := (← heap).store address
    return .value (store.globals.toView (← freshSerial))
  | .getScript script key => do return .ofText? (((← heap).store address).getScript script key)
  | .getScriptVars script => do viewOf (((← heap).store address).scriptVars script)
  | .getFromContext context key => do
    let script ← scriptOf context
    return .ofText? (((← heap).store address).getScript script key)
  | .getVarsFromContext context => do
    let script ← scriptOf context
    viewOf (((← heap).store address).scriptVars script)
  | .scriptNames => do
    return .datum (.set (((← heap).store address).scriptNames.map .text))
  | .snapshot => do
    let store := (← heap).store address
    return .value (store.snapshot (← freshSerials store.snapshotSize))
  | .summary => do return .ofText ((← heap).store address).summary

end Run

end BoundedVars
