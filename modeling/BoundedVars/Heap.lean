import BoundedVars.Setting
import BoundedVars.Store

/-!
# The heap

Dictionaries, configurations, contexts and stores are shared: two values with the same address are
the same object, and a change made through one shows through the other.  The `Heap` holds their
contents, each sort in an array of its own; an address is an index.  Nothing is ever removed.

The entries of a read-only view are part of the value and cannot change.  There is one way around:
another value can be put in the place of all of them, and from then on the view shows that value,
whatever it is.  The heap remembers which views were so *replaced*.
-/

namespace BoundedVars

/-- The entries of a mapping. -/
abbrev Entries := Table Value Value

/-- A configuration: the entries written to it, and the mappings it was made from, which it
consults but never changes. -/
structure Config where
  own : Entries
  sources : List Value

instance : Inhabited Config := ⟨⟨.empty, []⟩⟩

/-- The contents of all shared objects. -/
structure Heap where
  dicts : Array Entries
  configs : Array Config
  contexts : Array Entries
  stores : Array Store
  /-- What was put in the place of the entries of views, by the serial numbers of the views. -/
  replaced : Table Nat Value

/-- A value that is a mapping. -/
def Value.isMapping : Value → Bool
  | .view .. | .dict .. | .config _ => true
  | _ => false

namespace Heap

/-- The heap without objects. -/
def empty : Heap := ⟨#[], #[], #[], #[], .empty⟩

variable (h : Heap)

/-- The entries of a dictionary. -/
def dict (address : Nat) : Entries := h.dicts.getD address .empty

/-- A configuration. -/
def config (address : Nat) : Config := h.configs.getD address default

/-- The attributes of a context. -/
def context (address : Nat) : Entries := h.contexts.getD address .empty

/-- A store. -/
def store (address : Nat) : Store := h.stores.getD address default

/-- What a view shows in the place of its entries, if they were replaced. -/
def replacement? (serial : Nat) : Option Value := h.replaced.get? serial

/-- The heap with other entries in a dictionary. -/
def setDict (address : Nat) (entries : Entries) : Heap :=
  { h with dicts := h.dicts.setIfInBounds address entries }

/-- The heap with other own entries in a configuration. -/
def setOwn (address : Nat) (entries : Entries) : Heap :=
  { h with
    configs := h.configs.setIfInBounds address { h.config address with own := entries } }

/-- The heap with other attributes in a context. -/
def setContext (address : Nat) (attributes : Entries) : Heap :=
  { h with contexts := h.contexts.setIfInBounds address attributes }

/-- The heap with another state of a store. -/
def setStore (address : Nat) (store : Store) : Heap :=
  { h with stores := h.stores.setIfInBounds address store }

/-- The heap with a value in the place of the entries of a view. -/
def replaceView (serial : Nat) (value : Value) : Heap :=
  { h with replaced := h.replaced.insert serial value }

/-- A new dictionary. -/
def newDict (attributed : Bool) (entries : Entries) : Value × Heap :=
  (.dict attributed h.dicts.size, { h with dicts := h.dicts.push entries })

/-- A new configuration. -/
def newConfig (sources : List Value) : Value × Heap :=
  (.config h.configs.size, { h with configs := h.configs.push ⟨.empty, sources⟩ })

/-- A new context. -/
def newContext (attributes : Entries) : Value × Heap :=
  (.context h.contexts.size, { h with contexts := h.contexts.push attributes })

/-- A new store. -/
def newStore (store : Store) : Value × Heap :=
  (.store h.stores.size, { h with stores := h.stores.push store })

/-- How many times, at most, one configuration or replaced view leads to the next before one of
them comes again. -/
def reach : Nat := h.configs.size + h.replaced.size

end Heap

end BoundedVars
