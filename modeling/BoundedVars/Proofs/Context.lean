import BoundedVars.Context
import Mathlib.Tactic.SplitIfs

/-!
# Contexts and stores

Which script runs in a context is asked of the context, its dictionaries, configurations and views.
Stores have no part in it: replacing one changes the name of no script (`scriptName_setStore`).

Comparing values in general goes into the mappings that are compared.  But the name of a script is
looked up under a text, and a text is equal to nothing but texts.
-/

namespace BoundedVars.Heap

variable (h : Heap) (address : Nat) (store : Store)

/-! ### The other objects -/

@[simp] theorem dict_setStore (other : Nat) :
    (h.setStore address store).dict other = h.dict other := rfl

@[simp] theorem config_setStore (other : Nat) :
    (h.setStore address store).config other = h.config other := rfl

@[simp] theorem context_setStore (other : Nat) :
    (h.setStore address store).context other = h.context other := rfl

@[simp] theorem replacement?_setStore (serial : Nat) :
    (h.setStore address store).replacement? serial = h.replacement? serial := rfl

@[simp] theorem reach_setStore : (h.setStore address store).reach = h.reach := rfl

/-! ### Looking up a text -/

@[simp] theorem same_text_setStore (item : Value) (text : String) :
    (h.setStore address store).same item (.text text) = h.same item (.text text) := by
  unfold same equal
  split_ifs
  · rfl
  · -- A text is no mapping, so the heap is not asked.
    cases item <;>
      simp [nestingLimit, equalWithin, compareBy, Value.comparer, Value.comparingLevels,
        Value.defersTo, Value.content, Value.number?, Value.tupleItems?, Value.isMapping]

@[simp] theorem findWithin_setStore (reach : Nat) (v key : Value) :
    (h.setStore address store).findWithin reach v key = h.findWithin reach v key := by
  induction reach generalizing v with
  | zero => cases v <;> simp [findWithin]
  | succ reach ih => cases v <;> simp [findWithin, ih]

@[simp] theorem containsWithin_text_setStore (reach : Nat) (v : Value) (text : String) :
    (h.setStore address store).containsWithin reach v (.text text) =
      h.containsWithin reach v (.text text) := by
  induction reach generalizing v with
  | zero => cases v <;> simp [containsWithin]
  | succ reach ih => cases v <;> simp [containsWithin, ih]

@[simp] theorem item_text_setStore (v : Value) (text : String) :
    (h.setStore address store).item v (.text text) = h.item v (.text text) := by
  simp [item, find?]

/-- **Replacing a store changes the name of no script.** -/
theorem scriptName_setStore (context : Value) :
    (h.setStore address store).scriptName context = h.scriptName context := by
  unfold scriptName lookup get getAttribute find? contains
  cases context <;> simp

end BoundedVars.Heap
