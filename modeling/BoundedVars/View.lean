import BoundedVars.Mapping

/-!
# Reading a view

A read-only view offers the list of its keys, their number, and the item under a key.  Everything
else that can be asked of it is put together from these: an absent item means that the key is not
there, the values are the items under the keys, and so on.  A `Reading` is what a view offers.

The keys of a view can be combined with whatever can be gone through.  The results are collections
without order, given as lists without repetitions.
-/

namespace BoundedVars

/-- What a reader of a mapping needs: the keys in order, their number, and what stands under a key,
if the key is present. -/
structure Reading where
  keys : Except Failure (List Value)
  size : Except Failure Nat
  find? : Value → Except Failure (Option Value)

/-- The attribute of a view in which its entries are, the only one that can be set. -/
def entriesAttribute : String := "_data"

/-- The attribute of an object that tells its kind. -/
def kindAttribute : String := "__class__"

/-- The attributes that are the same for all views. -/
def viewAttributes : List String :=
  ["__abstractmethods__", "__class_getitem__", "__contains__", "__delattr__", "__delitem__",
   "__dir__", "__doc__", "__eq__", "__format__", "__ge__", "__getattribute__", "__getitem__",
   "__getstate__", "__gt__", "__hash__", "__init__", "__init_subclass__", "__ior__", "__iter__",
   "__le__", "__len__", "__lt__", "__module__", "__ne__", "__new__", "__reduce__",
   "__reduce_ex__", "__repr__", "__reversed__", "__setattr__", "__setitem__", "__sizeof__",
   "__slots__", "__str__", "__subclasshook__", "_abc_impl", "_unsupported", "clear", "get",
   "items", "keys", "pop", "popitem", "setdefault", "update", "values"]

/-- Sets an attribute of a view or another object without attributes of its own. -/
def Heap.setViewAttribute (h : Heap) (v name value : Value) : Except Failure Heap :=
  match v, name with
  | .view serial _, .text name =>
    if name = entriesAttribute then .ok (h.replaceView serial value)
    else if name = kindAttribute then .error (.notKind value.kind)
    else if viewAttributes.contains name then .error (.attributeShared v.kind name)
    else .error (.noAttribute v.kind name)
  | _, .text name => .error (.noAttribute v.kind name)
  | _, other => .error (.attributeNameNotText other.kind)

/-- The name under which what refuses to change a view takes the view itself. -/
def viewParameter : String := "self"

/-- How a method that would change a view fails, called with arguments of these names besides any in
order.  All such methods are one, which takes whatever it is given; only the view itself cannot be
given once more, by name. -/
def refusal (names : List String) : Failure :=
  if names.contains viewParameter then .viewTwice else .readOnly

/-- A mapping as a reader sees it. -/
def Heap.reading (h : Heap) (v : Value) : Reading :=
  ⟨h.elements v, h.length v, h.find? v⟩

/-- Keys as a collection: each an entry without a value. -/
def keySet (values : List Value) : Except Failure Entries :=
  Entries.putAll .empty (values.map fun v => (v, .none))

namespace Reading

variable (r : Reading)

/-- The item under a key, or `fallback` when the key is absent. -/
def get (key fallback : Value) : Except Failure Value := do
  return (← r.find? key).getD fallback

/-- The key is present. -/
def has (key : Value) : Except Failure Bool := do
  return (← r.find? key).isSome

/-- The item under a key, which has to be present. -/
def item (key : Value) : Except Failure Value := do
  match ← r.find? key with
  | some value => return value
  | none => throw (.absent key)

/-- The values in order. -/
def values : Except Failure (List Value) := do
  (← r.keys).mapM r.item

/-- The entries in order. -/
def entries : Except Failure (List (Value × Value)) := do
  (← r.keys).mapM fun key => do return (key, ← r.item key)

/-- One of the values is the same as `value`, as far as `same` tells. -/
def hasValue (same : Value → Value → Except Failure Bool) (value : Value) :
    Except Failure Bool := do
  (← r.keys).anyM fun key => do same (← r.item key) value

/-- The value under a key is the same as `value`, as far as `same` tells. -/
def hasItem (same : Value → Value → Except Failure Bool) (key value : Value) :
    Except Failure Bool := do
  match ← r.find? key with
  | some found => same found value
  | none => return false

/-! ### The keys as a collection -/

/-- The elements of a list that are keys. -/
def meet (others : List Value) : Except Failure (List Value) := do
  distinct (← others.filterM r.has)

/-- The keys and the elements of a list. -/
def join (others : List Value) : Except Failure (List Value) := do
  distinct ((← r.keys) ++ others)

/-- The keys that are not in a collection. -/
def without (others : Entries) : Except Failure (List Value) := do
  distinct (← (← r.keys).filterM fun key => do return (← others.find? key).isNone)

/-- The keys that are not in a list. -/
def minus (others : List Value) : Except Failure (List Value) := do
  r.without (← keySet others)

/-- The keys that are not in a list and the elements of the list that are no keys. -/
def apart (others : List Value) : Except Failure (List Value) := do
  let others ← keySet others
  let own ← r.without others
  let foreign ← others.keys.filterM fun other => do return !(← r.has other)
  distinct (own ++ foreign)

/-- All keys are keys of another mapping. -/
def within (h : Heap) (other : Value) : Except Failure Bool := do
  if (← r.size) ≤ (← h.length other) then (← r.keys).allM (h.contains other) else return false

/-- The keys are those of another mapping. -/
def sameKeys (h : Heap) (other : Value) : Except Failure Bool := do
  if (← r.size) = (← h.length other) then r.within h other else return false

/-- No element of a list is a key. -/
def disjoint : List Value → Except Failure Bool
  | [] => .ok true
  | other :: rest => do if ← r.has other then return false else disjoint rest

end Reading

end BoundedVars
