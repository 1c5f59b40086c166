import BoundedVars.Proofs.Store.Step

/-!
# Operations and compartments

An operation is addressed to a compartment (`Operation.place?`), to all of them, or, when its script
is no text, to none.  Clearing leaves a compartment without variables, and no operation touches a
compartment to which it is not addressed (`vars_outcome_of_ne`).  To one that it is addressed to it
does one of three things (`outcome_cases`).  Which keys and values pass depends on the limits alone.
-/

namespace BoundedVars.Store

variable {s t : Store} {place other : Compartment}

/-- The compartment of a script, if its name is a text. -/
def scriptPlace? : Value → Option Compartment
  | .text name => some (.script name)
  | _ => none

/-- The one compartment that an operation is addressed to.  Clearing everything is addressed to all
of them, and an operation on a script whose name is no text to none. -/
def Operation.place? : Operation → Option Compartment
  | .setGlobal .. | .clearGlobals => some .global
  | .setScript script .. | .clearScript script => scriptPlace? script
  | .clear => none

/-! ### Checks -/

theorem checkKey_congr (h : s.lengthBound .maxKeySize = t.lengthBound .maxKeySize) (key : Value) :
    s.checkKey key = t.checkKey key := by
  cases key with
  | text key => simp only [checkKey, h]
  | _ => rfl

theorem checkValue_congr (h : s.lengthBound .maxValueSize = t.lengthBound .maxValueSize)
    (value : Value) : s.checkValue value = t.checkValue value := by
  cases value with
  | text value => simp only [checkValue, h]
  | _ => rfl

theorem lengthBound_congr (h : s.limits = t.limits) (which : Limit) :
    s.lengthBound which = t.lengthBound which := by
  rw [lengthBound, lengthBound, h]

/-- A script that is no good is refused by every store, any other is written to under its name. -/
theorem setScript_cases (script key value : Value) :
    (∃ failure, ∀ s : Store, s.setScript script key value = s.refuse failure) ∨
      ∃ name, name ≠ "" ∧ script = .text name ∧
        ∀ s : Store, s.setScript script key value = s.writeChecked (.script name) key value := by
  unfold setScript
  cases h : checkScript script with
  | error failure => exact Or.inl ⟨failure, fun _ => rfl⟩
  | ok name =>
    obtain ⟨htext, hname⟩ := checkScript_eq_ok_iff.mp h
    exact Or.inr ⟨name, hname, htext, fun _ => rfl⟩

/-! ### Clearing -/

theorem store_clearGlobals (s : Store) : s.clearGlobals.store = s.withVars .global .empty := by
  unfold clearGlobals
  split_ifs with hempty
  · rw [withVars, ← Table.eq_empty_of_isEmpty hempty]
    rfl
  · rfl

theorem withVars_script_empty (s : Store) (name : String) :
    s.withVars (.script name) .empty = { s with scripts := s.scripts.erase name } := rfl

/-- A script is cleared by dropping it, in the table or not. -/
theorem store_clearScript_text (s : Store) (name : String) :
    (s.clearScript (.text name)).store = s.withVars (.script name) .empty := by
  have hdropped (habsent : s.scripts.contains name = false) :
      s = s.withVars (.script name) .empty := by
    rw [withVars_script_empty, Table.erase_of_not_contains habsent]
  unfold clearScript
  split_ifs with hempty
  · refine hdropped ?_
    rw [Table.eq_empty_of_isEmpty hempty, Table.contains_empty]
  · have hhash : (Value.text name).unhashable? = none := rfl
    rw [hhash]
    dsimp only
    split_ifs with hc
    · rfl
    · exact hdropped (by simpa using hc)

/-- A value that is no text names no script, so nothing is cleared. -/
theorem store_clearScript_of_not_text {script : Value} (h : ∀ name, script ≠ .text name) :
    (s.clearScript script).store = s := by
  unfold clearScript
  split_ifs
  · rfl
  · cases script.unhashable? with
    | some kind => rfl
    | none =>
      cases script with
      | text name => exact absurd rfl (h name)
      | _ => rfl

@[simp] theorem vars_new (limits : Value) (place : Compartment) :
    (new limits).vars place = .empty := by
  cases place <;> rfl

@[simp] theorem vars_clear (s : Store) (place : Compartment) :
    s.clear.store.vars place = .empty := by
  cases place <;> rfl

/-- A script whose name is a text is cleared without fail. -/
theorem result_clearScript_text (s : Store) (name : String) :
    (s.clearScript (.text name)).result = .ok () := by
  unfold clearScript
  split_ifs
  · rfl
  · have hhash : (Value.text name).unhashable? = none := rfl
    rw [hhash]
    dsimp only
    split_ifs <;> rfl

theorem result_clearGlobals (s : Store) : s.clearGlobals.result = .ok () := by
  unfold clearGlobals
  split_ifs <;> rfl

/-- An operation that only removes variables, all of a compartment or of all compartments. -/
def Operation.IsClearing : Operation → Prop
  | .clearGlobals | .clearScript _ | .clear => True
  | .setGlobal .. | .setScript .. => False

/-- **What an operation does to a compartment it is addressed to**: it is refused by every store,
writes to it, or leaves it empty. -/
theorem outcome_cases {operation : Operation}
    (hplace : operation.place? = some place ∨ operation = .clear) :
    (∃ failure, ∀ s : Store, s.outcome operation = s.refuse failure) ∨
      (∃ key value, ∀ s : Store, s.outcome operation = s.writeChecked place key value) ∨
      operation.IsClearing ∧ ∀ s : Store, (s.outcome operation).result = .ok () ∧
        (s.outcome operation).store.vars place = .empty := by
  cases operation with
  | setGlobal key value =>
    obtain rfl : Compartment.global = place := by simpa [Operation.place?] using hplace
    exact Or.inr (Or.inl ⟨key, value, fun _ => rfl⟩)
  | clearGlobals =>
    obtain rfl : Compartment.global = place := by simpa [Operation.place?] using hplace
    refine Or.inr (Or.inr ⟨trivial, fun s => ⟨result_clearGlobals s, ?_⟩⟩)
    rw [outcome, store_clearGlobals, vars_withVars_self]
  | setScript script key value =>
    rcases setScript_cases script key value with ⟨failure, hrefused⟩ | ⟨name, -, rfl, hwrites⟩
    · exact Or.inl ⟨failure, hrefused⟩
    · -- The script has a name, and its compartment is the one that is meant.
      obtain rfl : Compartment.script name = place := by
        simpa [Operation.place?, scriptPlace?] using hplace
      exact Or.inr (Or.inl ⟨key, value, hwrites⟩)
  | clearScript script =>
    obtain ⟨name, rfl, rfl⟩ : ∃ name, script = .text name ∧ .script name = place := by
      cases script with
      | text name => exact ⟨name, rfl, by simpa [Operation.place?, scriptPlace?] using hplace⟩
      | _ => simp [Operation.place?, scriptPlace?] at hplace
    refine Or.inr (Or.inr ⟨trivial, fun s => ⟨result_clearScript_text s name, ?_⟩⟩)
    rw [outcome, store_clearScript_text, vars_withVars_self]
  | clear => exact Or.inr (Or.inr ⟨trivial, fun s => ⟨rfl, vars_clear s place⟩⟩)

/-! ### Where nothing changes -/

theorem Writing.vars_of_ne {key : Value} {o : Outcome} (h : Writing s place key o)
    (hne : other ≠ place) : o.store.vars other = s.vars other := by
  cases h with
  | written | removed => exact vars_withVars_of_ne s _ hne
  | _ => rfl

/-- **An operation on one compartment leaves the others alone.** -/
theorem vars_outcome_of_ne {operation : Operation} (hclear : operation ≠ .clear)
    (hne : operation.place? ≠ some place) :
    (s.outcome operation).store.vars place = s.vars place := by
  cases operation with
  | setGlobal key value =>
    exact (writing_writeChecked s .global key value).vars_of_ne fun heq => hne (heq ▸ rfl)
  | clearGlobals =>
    rw [outcome, store_clearGlobals]
    exact vars_withVars_of_ne s _ fun heq => hne (heq ▸ rfl)
  | setScript script key value =>
    rw [outcome]
    rcases setScript_cases script key value with ⟨failure, hrefused⟩ | ⟨name, -, rfl, hwrites⟩
    · rw [hrefused]
      rfl
    · rw [hwrites]
      exact (writing_writeChecked s (.script name) key value).vars_of_ne fun heq => hne (heq ▸ rfl)
  | clearScript script =>
    rw [outcome]
    -- Only a text can be the name of a script that is in the table.
    by_cases htext : ∃ name, script = .text name
    · obtain ⟨name, rfl⟩ := htext
      rw [store_clearScript_text]
      exact vars_withVars_of_ne s _ fun heq => hne (heq ▸ rfl)
    · rw [store_clearScript_of_not_text fun name heq => htext ⟨name, heq⟩]
  | clear => exact absurd rfl hclear

/-! ### One variable -/

/-- Removing leaves everything else, and a variable that is not there need not be removed. -/
theorem vars_remove (s : Store) (place : Compartment) (key : String) :
    (s.remove place key).store.vars place = (s.vars place).erase key := by
  unfold remove
  dsimp only
  split_ifs with hkey
  · rw [accept, vars_withVars_self]
  · rw [Bool.not_eq_true] at hkey
    rw [accept, Table.erase_of_not_contains hkey]

theorem result_remove (s : Store) (place : Compartment) (key : String) :
    (s.remove place key).result = .ok () := by
  unfold remove
  dsimp only
  split_ifs <;> rfl

@[simp] theorem store_reject (s : Store) (place : Compartment) (key : String) (bound : Bound) :
    (s.reject place key bound).store = s := by
  unfold reject
  cases bound.text <;> rfl

theorem result_reject_ne_ok (s : Store) (place : Compartment) (key : String) (bound : Bound) :
    (s.reject place key bound).result ≠ .ok () := by
  unfold reject
  cases bound.text <;> exact nofun

/-- Writing below an integer capacity: a variable that is there is overwritten, and another one
needs room. -/
theorem put_int (s : Store) (place : Compartment) (key value : String) (capacity : Int) :
    s.put place key value (.int capacity) =
      if (s.vars place).contains key = true ∨ ((s.vars place).size : Int) < capacity then
        accept (s.withVars place ((s.vars place).insert key value))
          [.log .debug (setMessage place key), .change (.set place key value)]
      else s.reject place key (.int capacity) := by
  have hbound : (Value.int capacity).asBound ">=" = .ok (.int capacity) := rfl
  unfold put
  rw [hbound]
  dsimp only
  rw [Bound.reachedBy_int]
  by_cases hc : (s.vars place).contains key = true
  · rw [if_pos hc, if_pos (Or.inl hc)]
  · rw [if_neg hc]
    by_cases hroom : ((s.vars place).size : Int) < capacity
    · rw [decide_eq_false (Int.not_le.mpr hroom), if_neg Bool.false_ne_true, if_pos (Or.inr hroom)]
    · rw [decide_eq_true (Int.not_lt.mp hroom), if_pos rfl, if_neg (not_or.mpr ⟨hc, hroom⟩)]

end BoundedVars.Store
