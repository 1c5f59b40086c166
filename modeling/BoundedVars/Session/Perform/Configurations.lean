import BoundedVars.Session.Result

/-!
# Requests about values, settings and configurations

What the library fixes, what configurations and the environment say about its settings, and reading
and writing dictionaries and configurations.
-/

namespace BoundedVars.Run

/-- What the library fixes: the defaults of the limits, and the names it goes by. -/
def constants : List Datum :=
  Limit.all.map (fun limit => .int limit.default)
    ++ [.text Setting.environmentStart, .text scriptNameAttribute, .text Change.setEvent,
      .text Change.removedEvent, .text Change.clearedEvent, .text Compartment.global.scope,
      .text (Compartment.script "").scope]

/-- The description of a setting. -/
def describe (s : Setting) : Run Datum := do
  return .list [.text s.key, ← datum s.default, .text s.help, .text s.environmentName]

/-- Sets the level of the log to what a value denotes. -/
def setLevel (v : Value) : Run Unit := do
  let level ← read fun h => h.logLevel v
  modify fun s => { s with level := level }

/-- Sets the level of the log to what a configuration says. -/
def configureLog (conf : Value) : Run Unit := do
  setLevel (← read fun h => h.setting conf .logLevel)

/-- The limits that a configuration sets, as a value. -/
def limitsFrom (conf : Value) : Run Value := do
  return (← read fun h => h.configuredLimits conf).toValue (← freshSerial)

/-- Answers a query about a mapping, or changes it. -/
def queryMapping (v : Value) : MappingQuery → Run Result
  | .item key => do
    let key ← key.eval
    return .value (← read fun h => h.item v key)
  | .get key fallback => do
    let key ← key.eval
    let fallback ← fallback.eval
    return .value (← read fun h => h.get v key fallback)
  | .put key value => do
    let key ← key.eval
    let value ← value.eval
    setHeap (← read fun h => h.putItem v key value)
    return .nothing
  | .delete key => do
    let key ← key.eval
    setHeap (← read fun h => h.deleteItem v key)
    return .nothing
  | .pop key fallback => do
    let key ← key.eval
    let fallback ← fallback.mapM Term.eval
    let (found, h) ← read fun h => h.popItem v key fallback
    setHeap h
    return .value found
  | .size => do return .ofCount (← read fun h => h.length v)
  | .has key => do
    let key ← key.eval
    return .ofBool (← read fun h => h.contains v key)
  | .items => do
    if v.isMapping then listedPairs (← read fun h => (h.reading v).entries)
    else throw (.noAttribute v.kind "items")
  | .layers => do
    let (layers, h) ← read fun h => h.layers v
    setHeap h
    listed layers
  | .clear => do
    setHeap (← read fun h => h.clearItems v)
    return .nothing

/-- Carries out a request about values, settings and configurations. -/
def performConfig : ConfigRequest → Run Result
  | .constants => return .datum (.list constants)
  | .errorClasses =>
    return .datum (.list (Category.lineages.map fun lineage => .list (lineage.map .text)))
  | .settings => do return .datum (.list (← Setting.all.mapM describe))
  | .limitSettings => return .ofTexts (Limit.all.map Limit.key)
  | .readSetting setting source => do
    let source ← source.eval
    let setting ← ofExcept (Setting.ofName setting)
    return .value (← read fun h => h.setting source setting)
  | .environment env => do
    let env ← env.eval
    let entries ← read fun h => h.environmentOverrides env
    return .value (← allocate fun h => h.newDict false entries)
  | .limitsFrom conf => do return .value (← limitsFrom (← conf.eval))
  | .newLimits given named => do
    let given ← Term.evalAll given
    let named ← Term.evalNamed named
    return .value (← ofExcept (Value.makeLimits (← freshSerial) given named))
  | .equalLimits a b => do
    let a ← a.eval
    let b ← b.eval
    return .ofBool (← read fun h => h.equal a b)
  | .shown value => do
    let value ← value.eval
    return .ofText (← read fun h => h.written value)
  | .newConfig sources => do
    let sources ← Term.evalAll sources
    return .value (← allocate fun h => h.newConfig sources)
  | .host sources env => do
    let sources ← Term.evalAll sources
    let env ← env.eval
    let overrides ← read fun h => h.environmentOverrides env
    let overrides ← allocate fun h => h.newDict false overrides
    let conf ← allocate fun h => h.newConfig (sources ++ [overrides])
    configureLog conf
    return .value (← limitsFrom conf)
  | .value value => do return .value (← value.eval)
  | .mapping mapping query => do queryMapping (← mapping.eval) query

/-- The level of the log as it is set, and as it decides. -/
def levels : Run Result := do
  let level := (← get).level
  return .datum (.list [.int level, .int (Log.effectiveLevel level)])

/-- Carries out a request to the log. -/
def performLog : LogRequest → Run Result
  | .configure conf => do
    configureLog (← conf.eval)
    levels
  | .setLevel level => do
    setLevel (← level.eval)
    levels
  | .level => levels
  | .write severity message => do
    let message ← message.eval
    log severity (← read fun h => h.plainText message) none
    return .nothing

end BoundedVars.Run
