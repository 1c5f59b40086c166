import BoundedVars.Equality

/-!
# Reading and writing mappings

Dictionaries are read and written directly.  A configuration is read through its layers and written
in its own layer only: removing a key that is there only because of a source is a failure, and the
sources never change.  A view cannot be written at all.

Besides, this module tells what stands in a value (`Heap.contains`), and copies the entries that a
value stands for: those of a mapping, or those listed pair by pair.
-/

namespace BoundedVars

/-! ### Standing in a value -/

/-- A list stands in another one, all in one piece. -/
def isPiece {α : Type} [BEq α] (piece : List α) : List α → Bool
  | [] => piece.isEmpty
  | x :: rest => piece.isPrefixOf (x :: rest) || isPiece piece rest

/-- An integer, which has to be that of a byte, stands among bytes. -/
def holdsByte (bytes : List UInt8) (n : Int) : Except Failure Bool :=
  if 0 ≤ n ∧ n < 256 then .ok (bytes.any fun b => (b.toNat : Int) == n) else .error .notByte

namespace Heap

variable (h : Heap)

/-- A key stands in a value: as a key of a mapping, as an item of a list or tuple, or as a piece of
a text or of bytes. -/
def containsWithin : Nat → Value → Value → Except Failure Bool
  | reach, v, key =>
    match v with
    | .text s =>
      match key with
      | .text piece => .ok (isPiece piece.toList s.toList)
      | other => .error (.notTextIn other.kind)
    | .bytes _ bs =>
      match key with
      | .bytes _ piece => .ok (isPiece piece bs)
      | .int n => holdsByte bs n
      | .bool b => holdsByte bs (if b then 1 else 0)
      | other => .error (.notBytesIn other.kind)
    | .list _ items | .tuple _ items => items.anyM fun item => h.same item key
    | .limits _ a b c d => [a, b, c, d].anyM fun item => h.same item key
    | .dict .. | .view .. => do return (← h.findWithin reach v key).isSome
    | .config address =>
      match reach with
      | 0 => .error .endless
      | reach + 1 => do
        let config := h.config address
        if (← config.own.find? key).isSome then return true
        if ← config.sources.anyM fun source => containsWithin reach source key then return true
        return (← Entries.find? ⟨Setting.defaults⟩ key).isSome
    | other => .error (.notContainer other.kind)

/-- A key stands in a value. -/
def contains (v key : Value) : Except Failure Bool :=
  h.containsWithin h.reach v key

/-- The value of a mapping under a key, or `fallback` when the key is absent. -/
def get (v key fallback : Value) : Except Failure Value :=
  match v with
  | .dict .. | .view .. => do return (← h.find? v key).getD fallback
  | .config _ => do if ← h.contains v key then h.item v key else return fallback
  | other => .error (.noAttribute other.kind "get")

/-! ### Copying -/

/-- Writes the pairs of a list, each of which is something of two elements. -/
def putPairs (entries : Entries) (position : Nat) : List Value → Except Failure Entries
  | [] => .ok entries
  | pair :: rest =>
    match h.elements pair with
    | .error failure => .error (if failure.category = .type then .notPair position else failure)
    | .ok [key, value] => do putPairs (← entries.put key value) (position + 1) rest
    | .ok elements => .error (.pairLength position elements.length)

/-- Writes the entries that a value stands for: those of a mapping, or those listed pair by
pair. -/
def putEntries (entries : Entries) (v : Value) : Except Failure Entries := do
  if v.isMapping then entries.putAll (← h.contents v).entries
  else h.putPairs entries 0 (← h.elements v)

/-- A copy of the entries that a value stands for, none for a value that does not count as true. -/
def copyEntries (v : Value) : Except Failure Entries := do
  if ← h.isTruthy v then h.putEntries .empty v else return .empty

/-! ### Writing -/

/-- The part of a mapping that can be written: a dictionary itself, the own layer of a
configuration.  What is no mapping fails as `otherwise` says. -/
def writable (v : Value) (otherwise : Failure) : Except Failure Entries :=
  match v with
  | .dict _ address => .ok (h.dict address)
  | .config address => .ok (h.config address).own
  | .view .. => .error .readOnly
  | _ => .error otherwise

/-- The heap after the part of a mapping that can be written was replaced. -/
def setWritable (v : Value) (entries : Entries) : Heap :=
  match v with
  | .dict _ address => h.setDict address entries
  | .config address => h.setOwn address entries
  | _ => h

/-- The failure to find a key where a mapping can be written.  That of a configuration is put into
words at once, so the key has to be written out. -/
def absentIn (v key : Value) : Except Failure Failure :=
  match v with
  | .config _ => do return .absentFromOwn (← h.written key)
  | _ => .ok (.absent key)

/-- Writes an entry of a mapping. -/
def putItem (v key value : Value) : Except Failure Heap := do
  let entries ← h.writable v (.itemsFixed v.kind)
  return h.setWritable v (← entries.put key value)

/-- Removes an entry of a mapping. -/
def deleteItem (v key : Value) : Except Failure Heap := do
  let entries ← h.writable v (.itemsKept v.kind)
  match ← entries.find? key with
  | some _ => return h.setWritable v (entries.erase key)
  | none => throw (← h.absentIn v key)

end Heap

/-- The entries without a key, and what stood under it.  Where there are no entries nothing is
looked up, so everything counts as an absent key. -/
def Entries.take? (entries : Entries) (key : Value) : Except Failure (Option Value × Entries) :=
  if entries.isEmpty then .ok (none, entries)
  else do return (← entries.find? key, entries.erase key)

namespace Heap

variable (h : Heap)

/-- Removes an entry of a mapping and answers its value, or `fallback` when there is none. -/
def popItem (v key : Value) (fallback : Option Value) : Except Failure (Value × Heap) := do
  let (found, rest) ← (← h.writable v (.noAttribute v.kind "pop")).take? key
  match found, fallback with
  | some value, _ => return (value, h.setWritable v rest)
  | none, some value => return (value, h)
  | none, none => throw (← h.absentIn v key)

/-- Removes all entries of a mapping that can be removed. -/
def clearItems (v : Value) : Except Failure Heap := do
  let _ ← h.writable v (.noAttribute v.kind "clear")
  return h.setWritable v .empty

/-- The layers of a configuration, the first one first: its own entries and the defaults in new
dictionaries, and between them the mappings it was made from. -/
def layers (v : Value) : Except Failure (List Value × Heap) :=
  match v with
  | .config address =>
    let config := h.config address
    let (own, h) := h.newDict false config.own
    let (defaults, h) := h.newDict false ⟨Setting.defaults⟩
    .ok (own :: config.sources ++ [defaults], h)
  | other => .error (.noAttribute other.kind "maps")

end Heap

end BoundedVars
