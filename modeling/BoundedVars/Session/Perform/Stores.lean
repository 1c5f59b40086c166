import BoundedVars.Session.Call

/-!
# Requests to stores

Making stores, the calls of a store reached by its name, and writing whole series of variables.
-/

namespace BoundedVars.Run

/-- The address of the store of a name. -/
def storeAddress (name : String) : Run Nat := do
  match ← saved name with
  | .store address => return address
  | other => throw (.noAttribute other.kind "limits")

/-- Writes a variable of a series and counts it, or notes why it was not written. -/
def fillStep (react : Reactor) (address : Nat) (keyStart : String) (value : Value)
    (script : Option Value) (report : Nat × List (Int × Complaint)) (i : Int) :
    Run (Nat × List (Int × Complaint)) :=
  let key := Value.text (keyStart ++ signedDecimal i)
  let operation : Store.Operation := match script with
    | some script => .setScript script key value
    | none => .setGlobal key value
  tryCatch
    (do
      operate react address operation
      return (report.1 + 1, report.2))
    fun failure => do return (report.1, report.2 ++ [(i, (← heap).complaint failure)])

/-- Carries out a request to the store of a name. -/
def performStore (react : Reactor) (name : String) : StoreRequest → Run Result
  | .create limits => do
    let limits ← Term.evalOption limits
    let serial ← freshSerial
    let given ← read fun h => h.isTruthy limits
    let limits := if given then limits else Limits.default.toValue serial
    save name (← allocate fun h => h.newStore (.new limits))
    return .value limits
  | .limits => do call react (← storeAddress name) .limits
  | .setLimits value => do
    let _ ← storeAddress name
    let _ ← value.eval
    throw .limitsFixed
  | .setGlobal key value => do
    let address ← storeAddress name
    let key ← key.eval
    let value ← value.eval
    call react address (.update (.setGlobal key value))
  | .getGlobal key => do
    let address ← storeAddress name
    let key ← key.eval
    call react address (.getGlobal key)
  | .getGlobals => do call react (← storeAddress name) .getGlobals
  | .clearGlobals => do call react (← storeAddress name) (.update .clearGlobals)
  | .setScript script key value => do
    let address ← storeAddress name
    let script ← script.eval
    let key ← key.eval
    let value ← value.eval
    call react address (.update (.setScript script key value))
  | .getScript script key => do
    let address ← storeAddress name
    let script ← script.eval
    let key ← key.eval
    call react address (.getScript script key)
  | .getScriptVars script => do
    let address ← storeAddress name
    let script ← script.eval
    call react address (.getScriptVars script)
  | .clearScript script => do
    let address ← storeAddress name
    let script ← script.eval
    call react address (.update (.clearScript script))
  | .scriptNames => do call react (← storeAddress name) .scriptNames
  | .setFromContext context key value => do
    let address ← storeAddress name
    let context ← context.eval
    let key ← key.eval
    let value ← value.eval
    call react address (.updateFromContext context key value)
  | .getFromContext context key => do
    let address ← storeAddress name
    let context ← context.eval
    let key ← key.eval
    call react address (.getFromContext context key)
  | .getVarsFromContext context => do
    let address ← storeAddress name
    let context ← context.eval
    call react address (.getVarsFromContext context)
  | .clear => do call react (← storeAddress name) (.update .clear)
  | .snapshot => do call react (← storeAddress name) .snapshot
  | .summary => do call react (← storeAddress name) .summary
  | .fill keyStart first last value script => do
    let address ← storeAddress name
    let keyStart := (← keyStart.eval).textContent
    let value ← value.eval
    let script ← script.mapM Term.eval
    let numbers := (List.range (last - first).toNat).map fun (i : Nat) => first + i
    let (done, failed) ← numbers.foldlM (fillStep react address keyStart value script) (0, [])
    return .filled done failed

end BoundedVars.Run
