import BoundedVars.Equality

/-!
# Data: values as they stand

A `Datum` is what can be seen of a value at one moment: the same tree, with the contents of the
shared objects in the place of their addresses.  It is what answers are made of.

A context or store is seen by the name it goes by in a session, if it has one.  A mapping is seen by
the entries found when it is gone through, and whatever goes wrong on the way goes wrong with
seeing it; a value that contains itself cannot be seen.
-/

namespace BoundedVars

/-- A value as it stands. -/
inductive Datum where
  | none
  | bool (b : Bool)
  | int (n : Int)
  | float (x : Double)
  | text (s : String)
  | bytes (bytes : List UInt8)
  | list (items : List Datum)
  | tuple (items : List Datum)
  | limits (maxGlobalVars maxScriptVars maxKeySize maxValueSize : Datum)
  | view (entries : List (Datum × Datum))
  /-- Any other mapping. -/
  | mapping (entries : List (Datum × Datum))
  /-- A collection without order. -/
  | set (items : List Datum)
  /-- A context or store that goes by a name. -/
  | named (name : String)
  /-- Any other object. -/
  | object (kind : String)

namespace Datum

instance : Inhabited Datum := ⟨none⟩

/-- Two data look the same: the same kind of value with the same content. -/
def looksLike : Datum → Datum → Bool
  | none, y => match y with
    | none => true
    | _ => false
  | bool a, y => match y with
    | bool b => a == b
    | _ => false
  | int a, y => match y with
    | int b => a == b
    | _ => false
  | float a, y => match y with
    | float b => a == b
    | _ => false
  | text a, y => match y with
    | text b => a == b
    | _ => false
  | bytes a, y => match y with
    | bytes b => a == b
    | _ => false
  | list items, y => match y with
    | list others => lookAlike items others
    | _ => false
  | tuple items, y => match y with
    | tuple others => lookAlike items others
    | _ => false
  | limits a b c d, y => match y with
    | limits a' b' c' d' =>
      a.looksLike a' && b.looksLike b' && c.looksLike c' && d.looksLike d'
    | _ => false
  | view entries, y => match y with
    | view others => entriesLookAlike entries others
    | _ => false
  | mapping entries, y => match y with
    | mapping others => entriesLookAlike entries others
    | _ => false
  | set items, y => match y with
    | set others => lookAlike items others
    | _ => false
  | named a, y => match y with
    | named b => a == b
    | _ => false
  | object a, y => match y with
    | object b => a == b
    | _ => false
where
  /-- Two lists of data look the same, item by item. -/
  lookAlike : List Datum → List Datum → Bool
    | [], [] => true
    | x :: xs, y :: ys => x.looksLike y && lookAlike xs ys
    | _, _ => false
  /-- Two lists of entries look the same, entry by entry. -/
  entriesLookAlike : List (Datum × Datum) → List (Datum × Datum) → Bool
    | [], [] => true
    | (k, v) :: xs, (k', v') :: ys => k.looksLike k' && v.looksLike v' && entriesLookAlike xs ys
    | _, _ => false

end Datum

namespace Heap

variable (h : Heap) (nameOf : Value → Option String)

/-- A value as it stands, nested at most `depth` deep. -/
def datumWithin : Nat → Value → Except Failure Datum
  | 0, _ => .error .endless
  | depth + 1, v =>
    let part := datumWithin depth
    let pairs (entries : List (Value × Value)) : Except Failure (List (Datum × Datum)) :=
      entries.mapM fun e => do return (← part e.1, ← part e.2)
    let read (v : Value) : Except Failure (List (Datum × Datum)) := do
      (← h.elements v).mapM fun key => do
        let item ← h.item v key
        return (← part key, ← part item)
    match v with
    | .none => return .none
    | .bool b => return .bool b
    | .int n => return .int n
    | .text s => return .text s
    | .float _ x => return .float x
    | .bytes _ bs => return .bytes bs
    | .list _ items => do return .list (← items.mapM part)
    | .tuple _ items => do return .tuple (← items.mapM part)
    | .limits _ a b c d => do return .limits (← part a) (← part b) (← part c) (← part d)
    | .view serial entries =>
      match h.replacement? serial with
      | none => do return .view (← pairs entries)
      | some _ => do return .view (← read v)
    | .dict _ address => do return .mapping (← pairs (h.dict address).entries)
    | .config _ => do return .mapping (← read v)
    | other =>
      match nameOf other with
      | some name => return .named name
      | none => return .object other.kind

/-- A value as it stands. -/
def datum (v : Value) : Except Failure Datum :=
  h.datumWithin nameOf nestingLimit v

end Heap

end BoundedVars
