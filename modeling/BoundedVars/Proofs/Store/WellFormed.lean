import BoundedVars.Proofs.Store.Step

/-!
# Stores with integer limits stay within them

`Store.WellFormed l` says what a store with the limits `l` always is: keys and values are not too
long and keys not empty, no key stands twice, no compartment is over its capacity, and the table of
scripts holds only scripts that have a name and at least one variable.

A new store is well-formed (`wellFormed_new`), a step keeps it so (`Step.wellFormed`), and hence so
does any number of operations (`wellFormed_after`).  Limits may have any sign: below zero they leave
room for nothing, like zero.
-/

namespace BoundedVars

/-- Variables within limits on their keys, values and number. -/
structure Vars.Within (l : Limits) (capacity : Int) (vars : Vars) : Prop where
  nodup : vars.keys.Nodup
  key : ∀ e ∈ vars.entries, e.1 ≠ "" ∧ (e.1.length : Int) ≤ l.maxKeySize
  value : ∀ e ∈ vars.entries, (e.2.length : Int) ≤ l.maxValueSize
  size : (vars.size : Int) ≤ max 0 capacity

/-- A store within its limits. -/
structure Store.WellFormed (l : Limits) (s : Store) : Prop where
  globals : s.globals.Within l l.maxGlobalVars
  scripts : ∀ e ∈ s.scripts.entries, e.2.Within l l.maxScriptVars
  /-- The scripts in the table have a name. -/
  named : ∀ e ∈ s.scripts.entries, e.1 ≠ ""
  /-- The scripts in the table have variables. -/
  nonempty : ∀ e ∈ s.scripts.entries, 1 ≤ e.2.size
  nodup : s.scripts.keys.Nodup

/-! ### Variables -/

namespace Vars

variable {l : Limits} {capacity : Int} {vars : Vars}

theorem within_empty : Within l capacity .empty where
  nodup := List.nodup_nil
  key _ h := absurd h List.not_mem_nil
  value _ h := absurd h List.not_mem_nil
  size := Int.le_max_left 0 capacity

theorem Within.insert (h : vars.Within l capacity) {key value : String}
    (hkey : key ≠ "" ∧ (key.length : Int) ≤ l.maxKeySize)
    (hvalue : (value.length : Int) ≤ l.maxValueSize)
    (hroom : vars.contains key = true ∨ (vars.size : Int) < capacity) :
    Within l capacity (Table.insert vars key value) where
  nodup := Table.nodup_keys_insert h.nodup
  key e he := by
    rcases Table.mem_entries_insert he with rfl | he
    · exact hkey
    · exact h.key e he
  value e he := by
    rcases Table.mem_entries_insert he with rfl | he
    · exact hvalue
    · exact h.value e he
  size := by
    have hs := h.size
    rw [Table.size_insert]
    split_ifs with hc
    · exact hs
    · -- A new key was let in only because there was room.
      rcases hroom with hk | hlt
      · exact absurd hk hc
      · have hmax := Int.le_max_right 0 capacity
        omega

theorem Within.erase (h : vars.Within l capacity) (key : String) :
    Within l capacity (Table.erase vars key) where
  nodup := Table.nodup_keys_erase h.nodup
  key e he := h.key e (Table.mem_entries_erase.mp he).1
  value e he := h.value e (Table.mem_entries_erase.mp he).1
  size := Int.le_trans (Int.ofNat_le.mpr Table.size_erase_le) h.size

end Vars

namespace Store

variable {l : Limits} {s : Store} {serial : Nat} {place : Compartment} {key value : String}

/-- The capacity of a compartment. -/
def capacity (l : Limits) : Compartment → Int
  | .global => l.maxGlobalVars
  | .script _ => l.maxScriptVars

theorem get_capacityLimit (l : Limits) (place : Compartment) :
    l.get (capacityLimit place) = capacity l place := by
  cases place <;> rfl

/-! ### What integer limits admit -/

theorem lengthBound_eq (hl : s.limits = l.toValue serial) (which : Limit) :
    s.lengthBound which = .ok (.int (l.get which)) := by
  rw [lengthBound, hl, Value.limit_toValue]
  rfl

theorem fitsKey_iff (hl : s.limits = l.toValue serial) :
    s.FitsKey key ↔ key ≠ "" ∧ (key.length : Int) ≤ l.maxKeySize := by
  simp [FitsKey, lengthBound_eq hl, Limits.get]

theorem fitsValue_iff (hl : s.limits = l.toValue serial) :
    s.FitsValue value ↔ (value.length : Int) ≤ l.maxValueSize := by
  simp [FitsValue, lengthBound_eq hl, Limits.get]

theorem hasRoom_iff (hl : s.limits = l.toValue serial) :
    s.HasRoom place ↔ ((s.vars place).size : Int) < capacity l place := by
  simp [HasRoom, hl, Value.asBound, Value.bound?, get_capacityLimit]

/-! ### The invariant -/

theorem wellFormed_new : WellFormed l (new (l.toValue serial)) where
  globals := Vars.within_empty
  scripts _ h := absurd h List.not_mem_nil
  named _ h := absurd h List.not_mem_nil
  nonempty _ h := absurd h List.not_mem_nil
  nodup := List.nodup_nil

namespace WellFormed

/-- Every compartment is within the limits, also that of a script without variables. -/
theorem vars_within (h : s.WellFormed l) (place : Compartment) :
    (s.vars place).Within l (capacity l place) := by
  cases place with
  | global => exact h.globals
  | script name =>
    rw [vars]
    cases hv : s.scripts.get? name with
    | none => exact Vars.within_empty
    | some vars => exact h.scripts _ (Table.mem_entries_of_get? hv)

/-- Dropping a script leaves no trace of it. -/
theorem eraseScript (h : s.WellFormed l) (name : String) :
    WellFormed l { s with scripts := s.scripts.erase name } where
  globals := h.globals
  scripts e he := h.scripts e (Table.mem_entries_erase.mp he).1
  named e he := h.named e (Table.mem_entries_erase.mp he).1
  nonempty e he := h.nonempty e (Table.mem_entries_erase.mp he).1
  nodup := Table.nodup_keys_erase h.nodup

theorem withVars (h : s.WellFormed l) (hplace : IsNamed place) {vars : Vars}
    (hvars : vars.Within l (capacity l place)) : (s.withVars place vars).WellFormed l := by
  cases place with
  | global => exact { h with globals := hvars }
  | script name =>
    rw [Store.withVars]
    by_cases hempty : vars.isEmpty = true
    · rw [if_pos hempty]
      exact h.eraseScript name
    · rw [if_neg hempty]
      have hsize : 1 ≤ vars.size := by
        rw [Table.isEmpty_iff] at hempty
        exact List.length_pos_iff.mpr hempty
      -- An entry of the new table is the written one or an old one.
      refine ⟨h.globals, fun e he => ?_, fun e he => ?_, fun e he => ?_,
        Table.nodup_keys_insert h.nodup⟩
      · rcases Table.mem_entries_insert he with rfl | he
        · exact hvars
        · exact h.scripts e he
      · rcases Table.mem_entries_insert he with rfl | he
        · exact hplace
        · exact h.named e he
      · rcases Table.mem_entries_insert he with rfl | he
        · exact hsize
        · exact h.nonempty e he

end WellFormed

theorem Writing.wellFormed {key : Value} {o : Outcome} (hl : s.limits = l.toValue serial)
    (h : s.WellFormed l) (hplace : IsNamed place) (hwriting : Writing s place key o) :
    o.store.WellFormed l := by
  cases hwriting with
  | refused | rejected | idle => exact h
  | written hkey hvalue hroom =>
    refine h.withVars hplace ((h.vars_within place).insert ((fitsKey_iff hl).mp hkey)
      ((fitsValue_iff hl).mp hvalue) ?_)
    exact hroom.imp_right (hasRoom_iff hl).mp
  | removed => exact h.withVars hplace ((h.vars_within place).erase _)

/-- **A step keeps a store within its limits.** -/
theorem Step.wellFormed {o : Outcome} (hl : s.limits = l.toValue serial) (h : s.WellFormed l)
    (hstep : Step s o) : o.store.WellFormed l := by
  cases hstep with
  | writing hplace hwriting => exact hwriting.wellFormed hl h hplace
  | refused | idle => exact h
  | clearedGlobals => exact { h with globals := Vars.within_empty }
  | clearedScript => exact h.eraseScript _
  | cleared =>
    have hnew : WellFormed l (new (l.toValue serial)) := wellFormed_new
    exact { hnew with }

theorem wellFormed_after (hl : s.limits = l.toValue serial) (h : s.WellFormed l)
    (operations : List Operation) : (s.after operations).WellFormed l :=
  (after_induction (P := fun t => t.limits = l.toValue serial ∧ t.WellFormed l)
    (fun _ _ ht hstep => ⟨hstep.limits_eq.trans ht.1, hstep.wellFormed ht.1 ht.2⟩)
    operations s ⟨hl, h⟩).2

end Store

end BoundedVars
