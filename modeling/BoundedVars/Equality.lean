import BoundedVars.Container

/-!
# Equality

Two values are equal when they are of one sort and have equal content: numbers of every kind when
they count the same, lists item by item, tuples and limits item by item, mappings of every kind
when they have the same keys with equal values, in whatever order.  Objects equal nothing but
themselves.

Inside a container, identity comes first: the same value is found equal without being looked at,
so that a value that is no number, though it equals nothing, makes no difference between two lists
that hold it.  Two containers that contain themselves can be compared without end, which is a
failure; the depth to which they are followed is bounded.  Every comparison takes up a level of that
depth, and a view or a configuration, which compares by a function of its own, takes up more
(`Value.comparingLevels`).

It is one of the two values that compares, and its entries are gone through in their order
(`Value.defersTo`).  That shows only where a comparison fails: another order may come to an answer
first.
-/

namespace BoundedVars

/-- The first of two values leaves the comparison to the second one: the more general kind of tuple
or dictionary to the more special one, and a dictionary to any other kind of mapping. -/
def Value.defersTo : Value → Value → Bool
  | tuple .., limits .. => true
  | dict attributed _, dict other _ => !attributed && other
  | dict .., other => other.isMapping
  | _, _ => false

/-- The one of two values that compares. -/
def Value.comparer (v w : Value) : Value :=
  if v.defersTo w then w else v

/-- How many levels a comparison takes up that is made by a value, besides one. -/
def Value.comparingLevels : Value → Nat
  | view .. | config _ => 2
  | _ => 0

/-- A value as far as equality is concerned: of one of these sorts, with its content. -/
inductive Content where
  | list (items : List Value)
  | bytes (bytes : List UInt8)
  | number (n : Value.Number)
  | tuple (items : List Value)
  | mapping
  /-- Anything that equals only what it is itself, for a text the same text. -/
  | object

/-- What a value is as far as equality is concerned. -/
def Value.content (v : Value) : Content :=
  match v with
  | list _ items => .list items
  | bytes _ bs => .bytes bs
  | v =>
    match v.number?, v.tupleItems? with
    | some n, _ => .number n
    | _, some items => .tuple items
    | _, _ => if v.isMapping then .mapping else .object

/-- Two tables of entries have the same keys with equal values, as far as `same` tells these. -/
def Entries.compareBy (same : Value → Value → Except Failure Bool) (entries others : Entries) :
    Except Failure Bool :=
  if entries.size = others.size then
    entries.entries.allM fun e =>
      match others.get? e.1 with
      | some other => same e.2 other
      | none => .ok false
  else .ok false

namespace Heap

variable (h : Heap)

/-- Two values are equal, the parts of containers being compared by `same`. -/
def compareBy (same : Value → Value → Except Failure Bool) (v w : Value) : Except Failure Bool :=
  let allSame (xs ys : List Value) : Except Failure Bool :=
    (xs.zip ys).allM fun e => same e.1 e.2
  match v.content, w.content with
  | .list xs, .list ys => if xs.length = ys.length then allSame xs ys else .ok false
  | .bytes a, .bytes b => .ok (a == b)
  | .number a, .number b => .ok (a.eq b)
  | .tuple xs, .tuple ys => do return (← allSame xs ys) && xs.length == ys.length
  | .mapping, .mapping => do
    let entries ← h.contents v
    Entries.compareBy same entries (← h.contents w)
  | _, _ => .ok (v.identity == w.identity)

/-- Two values are equal, as far as values nested at most `depth` deep show once `steps` more levels
are taken up.  A comparison takes up one level, and `levels` more of the one that compares. -/
def equalWithin (levels : Value → Nat) : Nat → Nat → Value → Value → Except Failure Bool
  | 0, _, _, _ => .error .endlessComparison
  | depth + 1, steps + 1, v, w => equalWithin levels depth steps v w
  | depth + 1, 0, v, w =>
    let same (a b : Value) : Except Failure Bool :=
      if a.identity = b.identity then .ok true
      else equalWithin levels depth (levels (a.comparer b)) a b
    if v.defersTo w then h.compareBy same w v else h.compareBy same v w

/-- Two values are equal. -/
def equal (v w : Value) : Except Failure Bool :=
  h.equalWithin Value.comparingLevels nestingLimit (v.comparer w).comparingLevels v w

/-- Two values are one and the same, or equal. -/
def same (v w : Value) : Except Failure Bool :=
  if v.identity = w.identity then .ok true else h.equal v w

end Heap

end BoundedVars
