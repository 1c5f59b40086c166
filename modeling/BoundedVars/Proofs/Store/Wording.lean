import BoundedVars.Proofs.Wording
import BoundedVars.Store

/-!
# Failures of operations and their wording

An operation on a store fails for want of good arguments, of good limits, or of room, and all of
these can be put into words (`Store.worded_outcome`).
-/

namespace BoundedVars

open Except Heap

/-! ### Limits -/

theorem Bound.worded_text (bound : Bound) : Worded bound.text := by
  cases bound with
  | int n => exact fun failure hfails => (failsOnly_writtenInteger n failure hfails).isWorded
  | bool | float => exact failsOnly_ok _

theorem Value.worded_limit (source : Value) (which : Limit) : Worded (source.limit which) := by
  cases source with
  | limits => exact failsOnly_ok _
  | _ => exact failsOnly_error trivial

theorem Value.worded_asBound (value : Value) (sign : String) : Worded (value.asBound sign) := by
  unfold asBound
  split
  · exact failsOnly_ok _
  · exact failsOnly_error trivial

namespace Store

variable (s : Store)

theorem worded_lengthBound (which : Limit) : Worded (s.lengthBound which) :=
  (s.limits.worded_limit which).bind fun value => value.worded_asBound _

/-! ### Arguments -/

theorem worded_checkKey (key : Value) : Worded (s.checkKey key) := by
  cases key with
  | text key =>
    dsimp only [checkKey]
    split_ifs
    · exact failsOnly_error trivial
    · refine (s.worded_lengthBound _).bind fun bound => ?_
      split_ifs
      · exact bound.worded_text.bind fun _ => failsOnly_error trivial
      · exact failsOnly_ok _
  | _ => exact failsOnly_error trivial

theorem worded_checkValue (value : Value) : Worded (s.checkValue value) := by
  cases value with
  | none => exact failsOnly_ok _
  | text value =>
    dsimp only [checkValue]
    refine (s.worded_lengthBound _).bind fun bound => ?_
    split_ifs
    · exact bound.worded_text.bind fun _ => failsOnly_error trivial
    · exact failsOnly_ok _
  | _ => exact failsOnly_error trivial

theorem worded_checkScript (script : Value) : Worded (checkScript script) := by
  cases script with
  | text name =>
    dsimp only [checkScript]
    split_ifs
    · exact failsOnly_error trivial
    · exact failsOnly_ok _
  | _ => exact failsOnly_error trivial

/-! ### Operations -/

theorem worded_reject (place : Compartment) (key : String) (bound : Bound) :
    Worded (s.reject place key bound).result := by
  unfold reject
  split
  · rename_i failure hfails
    exact failsOnly_error (bound.worded_text failure hfails)
  · exact failsOnly_error trivial

theorem worded_put (place : Compartment) (key value : String) (capacity : Value) :
    Worded (s.put place key value capacity).result := by
  unfold put
  dsimp only
  split_ifs
  · exact failsOnly_ok _
  · split
    · rename_i failure hfails
      exact failsOnly_error (capacity.worded_asBound _ failure hfails)
    · split_ifs
      · exact s.worded_reject place key _
      · exact failsOnly_ok _

theorem worded_write (place : Compartment) (key : String) (value : Option String) :
    Worded (s.write place key value).result := by
  unfold write
  split
  · rename_i failure hfails
    exact failsOnly_error (s.limits.worded_limit _ failure hfails)
  · cases value with
    | some value => exact s.worded_put place key value _
    | none =>
      dsimp only [remove]
      split_ifs <;> exact failsOnly_ok _

theorem worded_writeChecked (place : Compartment) (key value : Value) :
    Worded (s.writeChecked place key value).result := by
  have hchecks : Worded (do return (← s.checkKey key, ← s.checkValue value)) :=
    (s.worded_checkKey key).bind fun _ => (s.worded_checkValue value).bind fun _ => failsOnly_ok _
  unfold writeChecked
  split
  · exact s.worded_write place _ _
  · rename_i failure hfails
    exact failsOnly_error (hchecks failure hfails)

/-- **Whatever an operation fails with has a wording.** -/
theorem worded_outcome (operation : Operation) : Worded (s.outcome operation).result := by
  cases operation with
  | setGlobal key value => exact s.worded_writeChecked .global key value
  | setScript script key value =>
    dsimp only [outcome, setScript]
    split
    · exact s.worded_writeChecked _ key value
    · rename_i failure hfails
      exact failsOnly_error (worded_checkScript script failure hfails)
  | clearGlobals =>
    dsimp only [outcome, clearGlobals]
    split_ifs <;> exact failsOnly_ok _
  | clearScript script =>
    dsimp only [outcome, clearScript]
    split_ifs
    · exact failsOnly_ok _
    · split
      · exact failsOnly_error trivial
      · repeat' split
        all_goals exact failsOnly_ok _
  | clear => exact failsOnly_ok _

end Store

end BoundedVars
