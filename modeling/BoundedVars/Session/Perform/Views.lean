import BoundedVars.Session.Result

/-!
# Requests to views

Making a read-only view, and everything that can be asked of one.  What would change it is refused.
-/

namespace BoundedVars.Run

/-- The reading of a view. -/
def viewed (v : Value) : Run Reading := do
  if v.isMapping then return (← heap).reading v else throw (.noAttribute v.kind "keys")

/-- The mapping whose keys are to be compared with those of a view. -/
def otherMapping (term : Term) : Run Value := do
  let other ← term.eval
  let _ ← viewed other
  return other

/-- The elements that the keys of a view are to be combined with. -/
def operand (sign : String) (term : Term) : Run (List Value) := do
  let other ← term.eval
  if other.isMapping || other.sequence?.isSome then read fun h => h.elements other
  else throw (.badOperands sign "KeysView" other.kind)

/-- A configuration with the entries of a view before all its layers, as the dictionary that it
reads like. -/
def mergeInto (view : Value) (address : Nat) : Run Value := do
  let (layers, h) ← read fun h => h.layers (.config address)
  let entries ← ofExcept do
    layers.reverse.foldlM (fun entries layer => h.putEntries entries layer)
      (← h.putEntries .empty view)
  allocate fun h => h.newDict false entries

/-- Answers a query about a view. -/
def queryView (view : Value) : ViewQuery → Run Result
  | .item key => do
    let r ← viewed view
    let key ← key.eval
    return .value (← ofExcept (r.item key))
  | .get key fallback => do
    let r ← viewed view
    let key ← key.eval
    let fallback ← fallback.eval
    return .value (← ofExcept (r.get key fallback))
  | .has key => do
    let r ← viewed view
    let key ← key.eval
    return .ofBool (← ofExcept (r.has key))
  | .size => do return .ofCount (← ofExcept (← viewed view).size)
  | .isTruthy => do return .ofBool ((← ofExcept (← viewed view).size) != 0)
  | .keys => do listed (← ofExcept (← viewed view).keys)
  | .values => do
    let r ← viewed view
    listed (← ofExcept r.values)
  | .items => do
    let r ← viewed view
    listedPairs (← ofExcept r.entries)
  | .hasValue value => do
    let r ← viewed view
    let value ← value.eval
    return .ofBool (← read fun h => r.hasValue h.same value)
  | .hasItem key value => do
    let r ← viewed view
    let key ← key.eval
    let value ← value.eval
    return .ofBool (← read fun h => r.hasItem h.same key value)
  | .meet others => do
    let r ← viewed view
    let others ← operand "&" others
    collection (← ofExcept (r.meet others))
  | .join others => do
    let r ← viewed view
    let others ← operand "|" others
    collection (← ofExcept (r.join others))
  | .minus others => do
    let r ← viewed view
    let others ← operand "-" others
    collection (← ofExcept (r.minus others))
  | .apart others => do
    let r ← viewed view
    let others ← operand "^" others
    collection (← ofExcept (r.apart others))
  | .within other => do
    let r ← viewed view
    let other ← otherMapping other
    return .ofBool (← read fun h => r.within h other)
  | .sameKeys other => do
    let r ← viewed view
    let other ← otherMapping other
    return .ofBool (← read fun h => r.sameKeys h other)
  | .disjoint others => do
    let r ← viewed view
    let others ← others.eval
    let others ← read fun h => h.elements others
    return .ofBool (← ofExcept (r.disjoint others))
  | .shownParts => do
    let shown ← read fun h => h.written view
    return .ofTexts (["KeysView", "ValuesView", "ItemsView"].map fun part =>
      part ++ "(" ++ shown ++ ")")
  | .shown => do return .ofText (← read fun h => h.written view)
  | .equals other => do
    let other ← other.eval
    return .ofBool (← read fun h => h.equal view other)
  | .differs other => do
    let other ← other.eval
    return .ofBool !(← read fun h => h.equal view other)
  | .toDict => do
    let entries ← read fun h => h.putEntries .empty view
    return .value (← allocate fun h => h.newDict false entries)
  | .toView => do
    let entries ← read fun h => h.copyEntries view
    return .value (.view (← freshSerial) entries.entries)
  | .hash =>
    match view.unhashable? with
    | some kind => throw (.unhashable kind)
    | none => return .nothing
  | .reversed => throw (.notReversible view.kind)
  | .merge other => do
    let other ← other.eval
    match other with
    | .config address => return .value (← mergeInto view address)
    | other => throw (.badOperands "|" view.kind other.kind)
  | .copy => throw (.noAttribute view.kind "copy")
  | .setAttribute name value => do
    let name ← name.eval
    let value ← value.eval
    setHeap (← read fun h => h.setViewAttribute view name value)
    return .nothing
  | .put key value => do
    let _ ← key.eval
    let _ ← value.eval
    throw .readOnly
  | .delete key => do
    let _ ← key.eval
    throw .readOnly
  | .mergeIn other => do
    let _ ← other.eval
    throw .readOnly
  | .change _ given named => do
    let _ ← Term.evalAll given
    let named ← Term.evalNamed named
    throw (refusal (named.map (·.1)))

/-- Makes a view of the entries that a value stands for. -/
def createView (data : Option Term) : Run Result := do
  let data ← Term.evalOption data
  let entries ← read fun h => h.copyEntries data
  return .value (.view (← freshSerial) entries.entries)

end BoundedVars.Run
