import BoundedVars.Session.Result

/-!
# Requests to contexts

Making contexts, and reading and writing their attributes.
-/

namespace BoundedVars.Run

/-- Makes a context with the entries that a value stands for, and saves it. -/
def createContext (name : String) (data : Value) : Run Result := do
  let attributes ← read fun h => h.copyEntries data
  save name (← allocate fun h => h.newContext attributes)
  return .nothing

/-- Carries out a request to a context. -/
def performContext : ContextRequest → Run Result
  | .create name attributes => do createContext name (← Term.evalOption attributes)
  | .createForScript name script => do
    let script ← script.eval
    createContext name (.view (← freshSerial) [(.text scriptNameAttribute, script)])
  | .getAttribute context name => do
    let context ← context.eval
    let name ← name.eval
    return .value (← read fun h => h.getAttribute context name)
  | .setAttribute context name value => do
    let context ← context.eval
    let name ← name.eval
    let value ← value.eval
    setHeap (← read fun h => h.setAttribute context name value)
    return .nothing
  | .removeAttribute context name => do
    let context ← context.eval
    let name ← name.eval
    let (found, h) ← read fun h => h.removeAttribute context name
    setHeap h
    return .value found
  | .shown context => do
    let context ← context.eval
    return .ofText (← read fun h => h.written context)
  | .lookup context name => do
    let context ← context.eval
    let name ← name.eval
    return .value (← read fun h => h.lookup context name)
  | .scriptName context => do
    let context ← context.eval
    return .ofText (← read fun h => h.scriptName context)

end BoundedVars.Run
