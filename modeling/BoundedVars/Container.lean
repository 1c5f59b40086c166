import BoundedVars.Written

/-!
# What a value contains

A value can be gone through (`elements`), asked for an item (`find?`), measured (`length`) and
taken as true or false (`isTruthy`).  Dictionaries are asked for their keys, sequences for their
positions, and what is neither answers with a failure of its own.

A configuration asks its layers: first what was written to it, then its sources in order, then the
defaults; a layer that does not have the key is passed over, any other failure of a layer is a
failure of the whole.  Its keys are those of all layers, the last layer first.  Nobody checks that
the sources are mappings.  A view whose entries were replaced passes every question on.

Configurations and replaced views can lead to each other in a circle.  Each question follows them
as often as there are some (`Heap.reach`); one that goes on longer has no end.
-/

namespace BoundedVars

/-! ### Entries -/

namespace Entries

/-- The value under a key, if the key is present; something that cannot be a key is a failure. -/
def find? (entries : Entries) (key : Value) : Except Failure (Option Value) :=
  match key.unhashable? with
  | some kind => .error (.unhashable kind)
  | none => .ok (entries.get? key)

/-- Writes an entry, if the key can be one. -/
def put (entries : Entries) (key value : Value) : Except Failure Entries :=
  match key.unhashable? with
  | some kind => .error (.unhashable kind)
  | none => .ok (entries.insert key value)

/-- Writes entries one after another. -/
def putAll (entries : Entries) (new : List (Value × Value)) : Except Failure Entries :=
  new.foldlM (fun entries e => entries.put e.1 e.2) entries

end Entries

/-- A list of keys without repetitions, of each the first. -/
def distinct (values : List Value) : Except Failure (List Value) := do
  let entries ← Entries.putAll .empty (values.map fun v => (v, .none))
  return entries.keys

/-! ### Sequences -/

namespace Value

/-- The bytes of a value as integers. -/
def ofBytes (bytes : List UInt8) : List Value :=
  bytes.map fun b => .int b.toNat

/-- The characters of a text, each a text. -/
def ofCharacters (s : String) : List Value :=
  s.toList.map fun c => .text (String.singleton c)

/-- A value as a sequence of items. -/
def sequence? : Value → Option (Sequence × List Value)
  | list _ items => some (.list, items)
  | tuple _ items => some (.tuple, items)
  | limits _ a b c d => some (.tuple, [a, b, c, d])
  | text s => some (.text, ofCharacters s)
  | bytes _ bs => some (.bytes, ofBytes bs)
  | _ => Option.none

/-- The least integer that is too large for a position. -/
def positionBound : Int := Nat.pow 2 63

/-- The item at a position; negative positions count from the end. -/
def itemAt (sequence : Sequence) (items : List Value) (key : Value) : Except Failure Value :=
  match key with
  | int n => at? n
  | bool b => at? (if b then 1 else 0)
  | other => .error (.badIndex sequence other.kind)
where
  /-- The item at an integer. -/
  at? (n : Int) : Except Failure Value :=
    if n < -positionBound ∨ positionBound ≤ n then .error .indexTooLarge
    else
      let position := if n < 0 then n + items.length else n
      if position < 0 then .error (.indexOutOfRange sequence)
      else
        match items[position.toNat]? with
        | some item => .ok item
        | Option.none => .error (.indexOutOfRange sequence)

end Value

/-! ### Questions -/

namespace Heap

variable (h : Heap)

/-- The values that come one by one when a value is gone through: items, characters, bytes, or the
keys of a mapping.  At most `reach` configurations and replaced views lead to one another. -/
def elementsWithin : Nat → Value → Except Failure (List Value)
  | reach, v =>
    match v.sequence? with
    | some (_, items) => .ok items
    | none =>
      match v with
      | .dict _ address => .ok (h.dict address).keys
      | .view serial entries =>
        match h.replacement? serial with
        | none => .ok (entries.map (·.1))
        | some value =>
          match reach with
          | 0 => .error .endless
          | reach + 1 => elementsWithin reach value
      | .config address =>
        match reach with
        | 0 => .error .endless
        | reach + 1 => do
          let config := h.config address
          let keys ← config.sources.reverse.foldlM
            (fun keys source => do distinct (keys ++ (← elementsWithin reach source)))
            (Setting.defaults.map (·.1))
          distinct (keys ++ config.own.keys)
      | other => .error (.notIterable other.kind)

/-- The values that come one by one when a value is gone through. -/
def elements (v : Value) : Except Failure (List Value) :=
  h.elementsWithin h.reach v

/-- The item of a value under a key, if there is one; a key of the wrong kind is a failure. -/
def findWithin : Nat → Value → Value → Except Failure (Option Value)
  | reach, v, key =>
    match v.sequence? with
    | some (sequence, items) => some <$> Value.itemAt sequence items key
    | none =>
      match v with
      | .dict _ address => (h.dict address).find? key
      | .view serial entries =>
        match h.replacement? serial with
        | none => Entries.find? ⟨entries⟩ key
        | some value =>
          match reach with
          | 0 => .error .endless
          | reach + 1 => findWithin reach value key
      | .config address =>
        match reach with
        | 0 => .error .endless
        | reach + 1 => do
          let config := h.config address
          match ← config.own.find? key with
          | some value => return some value
          | none =>
            match ← config.sources.findSomeM? fun source => findWithin reach source key with
            | some value => return some value
            | none => Entries.find? ⟨Setting.defaults⟩ key
      | other => .error (.notSubscriptable other.kind)

/-- The item of a value under a key, if there is one. -/
def find? (v key : Value) : Except Failure (Option Value) :=
  h.findWithin h.reach v key

/-- The item of a value under a key, which has to be there. -/
def item (v key : Value) : Except Failure Value := do
  match ← h.find? v key with
  | some value => return value
  | none => throw (.absent key)

/-- The number of elements of a value. -/
def lengthWithin : Nat → Value → Except Failure Nat
  | reach, v =>
    match v.sequence? with
    | some (_, items) => .ok items.length
    | none =>
      match v with
      | .dict _ address => .ok (h.dict address).size
      | .view serial entries =>
        match h.replacement? serial with
        | none => .ok entries.length
        | some value =>
          match reach with
          | 0 => .error .endless
          | reach + 1 => lengthWithin reach value
      | .config address => do
        let config := h.config address
        let keys ← config.sources.foldlM
          (fun keys source => do distinct (keys ++ (← h.elementsWithin (reach - 1) source)))
          config.own.keys
        return (← distinct (keys ++ Setting.defaults.map (·.1))).length
      | other => .error (.noLength other.kind)

/-- The number of elements of a value. -/
def length (v : Value) : Except Failure Nat :=
  h.lengthWithin h.reach v

/-- A value counts as true unless it is nothing, zero or empty.  A configuration does because of
its defaults, once its sources have been asked. -/
def truthWithin : Nat → Value → Except Failure Bool
  | reach, v =>
    match v with
    | .none => .ok false
    | .bool b => .ok b
    | .int n => .ok (n != 0)
    | .float _ x => .ok !x.isZero
    | .view .. => do return (← h.lengthWithin reach v) != 0
    | .config address =>
      match reach with
      | 0 => .error .endless
      | reach + 1 => do
        let config := h.config address
        if config.own.isEmpty then
          let _ ← config.sources.anyM (truthWithin reach)
        return true
    | .context _ | .store _ | .raising .. | .notCallable _ | .plain _ => .ok true
    | other => do return (← h.lengthWithin reach other) != 0

/-- A value counts as true. -/
def isTruthy (v : Value) : Except Failure Bool :=
  h.truthWithin h.reach v

/-- The entries found when a value is gone through key by key. -/
def collected (v : Value) : Except Failure Entries := do
  let entries ← (← h.elements v).mapM fun key => do return (key, ← h.item v key)
  Entries.putAll .empty entries

/-- The entries of a mapping. -/
def contents (v : Value) : Except Failure Entries :=
  match v with
  | .dict _ address => .ok (h.dict address)
  | .view serial entries =>
    match h.replacement? serial with
    | none => .ok ⟨entries⟩
    | some _ => h.collected v
  | other => h.collected other

end Heap

end BoundedVars
