import BoundedVars.Proofs.Store.Compartments
import Mathlib.Tactic.SplitIfs

/-!
# More room never hurts

Two stores carry out the same operations; their bounds on lengths are the same, but the second one
has at least the capacities of the first.  After a rejection they hold different variables, and
those that only the larger one holds take up room there.  But they never take up more than it has in
addition: a compartment of the larger store holds all variables of that of the smaller one, and at
most as many others as the capacities differ by (`Covers`).  Every operation keeps it this way
(`Covers.outcome`), and therefore whatever succeeds on the smaller store succeeds on the larger one
(`Covers.result`).

A script that is to be cleared has to be given by a text.  Any other value names no script, and some
of them fail, but only where there are scripts, so they can tell a store that holds more.
-/

namespace BoundedVars

/-! ### Variables -/

/-- Variables that are all among others, with the same values; there are at most `extra` more of
these. -/
structure Vars.Covers (extra : Int) (few many : Vars) : Prop where
  nodup : few.keys.Nodup
  found : ∀ key value, few.get? key = some value → many.get? key = some value
  size : (many.size : Int) ≤ few.size + extra

namespace Vars.Covers

variable {extra : Int} {few many : Vars}

theorem empty (h : 0 ≤ extra) : Covers extra .empty .empty where
  nodup := List.nodup_nil
  found _ _ hfound := hfound
  size := by
    have hsize : (Table.empty : Vars).size = 0 := rfl
    omega

theorem contains (h : Covers extra few many) {key : String} (hkey : few.contains key = true) :
    many.contains key = true := by
  rw [← Table.isSome_get?, Option.isSome_iff_exists] at hkey ⊢
  obtain ⟨value, hvalue⟩ := hkey
  exact ⟨value, h.found key value hvalue⟩

/-- Writing to both. -/
theorem insert (h : Covers extra few many) (key value : String) :
    Covers extra (Table.insert few key value) (Table.insert many key value) where
  nodup := Table.nodup_keys_insert h.nodup
  found other v hfound := by
    by_cases hother : other = key
    · subst hother
      rw [Table.get?_insert_self] at hfound ⊢
      exact hfound
    · rw [Table.get?_insert_of_ne _ _ hother] at hfound ⊢
      exact h.found other v hfound
  size := by
    have hsize := h.size
    rw [Table.size_insert, Table.size_insert]
    -- A key that the few have is one that the many have, so only three cases can be.
    split_ifs with hmany hfew hfew
    · exact hsize
    · push_cast
      omega
    · exact absurd (h.contains hfew) hmany
    · push_cast
      omega

/-- Writing only to the more: under a key that the few do not have, as far as there is room. -/
theorem insert_right (h : Covers extra few many) {key : String} (value : String)
    (hkey : few.contains key = false)
    (hroom : many.contains key = true ∨ (many.size : Int) < few.size + extra) :
    Covers extra few (Table.insert many key value) where
  nodup := h.nodup
  found other v hfound := by
    have hother : other ≠ key := by
      rintro rfl
      rw [← Table.isSome_get?, hfound] at hkey
      cases hkey
    rw [Table.get?_insert_of_ne _ _ hother]
    exact h.found other v hfound
  size := by
    have hsize := h.size
    rw [Table.size_insert]
    split_ifs with hmany
    · exact hsize
    · -- A new key takes up one of the places that the many have more.
      have hlt := hroom.resolve_left hmany
      push_cast
      omega

/-- Removing from both. -/
theorem erase (h : Covers extra few many) (key : String) :
    Covers extra (Table.erase few key) (Table.erase many key) where
  nodup := Table.nodup_keys_erase h.nodup
  found other v hfound := by
    by_cases hother : other = key
    · subst hother
      rw [Table.get?_erase_self] at hfound
      cases hfound
    · rw [Table.get?_erase_of_ne _ hother] at hfound ⊢
      exact h.found other v hfound
  size := by
    have hsize := h.size
    by_cases hfew : few.contains key = true
    · -- One variable less here, and at least one less there.
      have hone := Table.size_erase_of_contains h.nodup hfew
      have hlt := Table.size_erase_lt_of_contains (h.contains hfew)
      omega
    · rw [Bool.not_eq_true] at hfew
      have hle : (Table.erase many key).size ≤ many.size := Table.size_erase_le
      rw [Table.erase_of_not_contains hfew]
      omega

end Vars.Covers

/-- An outcome that is no worse for a compartment than another one: it is a success if that is one,
and all variables are there. -/
structure Outcome.Covers (extra : Int) (place : Compartment) (o p : Outcome) : Prop where
  result : o.result = .ok () → p.result = .ok ()
  vars : Vars.Covers extra (o.store.vars place) (p.store.vars place)

namespace Store

/-! ### Stores -/

/-- Limits of which the second have the same bounds on lengths and at least the capacities. -/
structure Roomier (low high : Compartment → Int) (limits others : Value) : Prop where
  keySize : limits.limit .maxKeySize = others.limit .maxKeySize
  valueSize : limits.limit .maxValueSize = others.limit .maxValueSize
  limit_low : ∀ place, limits.limit (capacityLimit place) = .ok (.int (low place))
  limit_high : ∀ place, others.limit (capacityLimit place) = .ok (.int (high place))
  le : ∀ place, low place ≤ high place

/-- A store and one with at least its capacities, which holds all its variables and, in each
compartment, at most as many others as the capacities differ by. -/
structure Covers (low high : Compartment → Int) (s t : Store) : Prop where
  limits : Roomier low high s.limits t.limits
  vars : ∀ place, Vars.Covers (high place - low place) (s.vars place) (t.vars place)

/-- An operation that clears a script is given its name as a text. -/
def Operation.ClearsByName : Operation → Prop
  | .clearScript script => ∃ name, script = .text name
  | _ => True

theorem covers_new {low high : Compartment → Int} {limits others : Value}
    (h : Roomier low high limits others) : Covers low high (new limits) (new others) where
  limits := h
  vars place := by
    rw [vars_new, vars_new]
    exact .empty (Int.sub_nonneg_of_le (h.le place))

namespace Covers

variable {low high : Compartment → Int} {s t : Store} {place : Compartment} {operation : Operation}

/-- A refusal by both stores leaves the one covering the other. -/
theorem refuse (h : Covers low high s t) (place : Compartment) (failure other : Failure) :
    Outcome.Covers (high place - low place) place (s.refuse failure) (t.refuse other) where
  result := nofun
  vars := h.vars place

theorem put (h : Covers low high s t) (place : Compartment) (key value : String) :
    Outcome.Covers (high place - low place) place (s.put place key value (.int (low place)))
      (t.put place key value (.int (high place))) := by
  have hvars := h.vars place
  have hsize := hvars.size
  rw [put_int, put_int]
  by_cases hfits : (s.vars place).contains key = true ∨ ((s.vars place).size : Int) < low place
  · -- What fits into the smaller store fits into the larger one, which holds the key as well or
    -- else has as much room left.
    have hfits' : (t.vars place).contains key = true ∨
        ((t.vars place).size : Int) < high place := by
      rcases hfits with hkey | hroom
      · exact Or.inl (hvars.contains hkey)
      · exact Or.inr (by omega)
    rw [if_pos hfits, if_pos hfits']
    refine ⟨fun _ => rfl, ?_⟩
    simpa only [accept, vars_withVars_self] using hvars.insert key value
  · rw [if_neg hfits]
    refine ⟨fun hok => absurd hok (result_reject_ne_ok s _ _ _), ?_⟩
    rw [store_reject]
    rw [not_or, Bool.not_eq_true, Int.not_lt] at hfits
    split_ifs with hfits'
    · -- The larger store has room for one that the smaller one rejects.
      have hroom : (t.vars place).contains key = true ∨
          ((t.vars place).size : Int) < (s.vars place).size + (high place - low place) :=
        hfits'.imp_right fun hlt => by omega
      simpa only [accept, vars_withVars_self] using hvars.insert_right value hfits.1 hroom
    · rw [store_reject]
      exact hvars

theorem remove (h : Covers low high s t) (place : Compartment) (key : String) :
    Outcome.Covers (high place - low place) place (s.remove place key) (t.remove place key) where
  result _ := result_remove t place key
  vars := by
    rw [vars_remove, vars_remove]
    exact (h.vars place).erase key

theorem writeChecked (h : Covers low high s t) (place : Compartment) (key value : Value) :
    Outcome.Covers (high place - low place) place (s.writeChecked place key value)
      (t.writeChecked place key value) := by
  have hkey : s.lengthBound .maxKeySize = t.lengthBound .maxKeySize := by
    rw [lengthBound, h.limits.keySize, lengthBound]
  have hvalue : s.lengthBound .maxValueSize = t.lengthBound .maxValueSize := by
    rw [lengthBound, h.limits.valueSize, lengthBound]
  unfold Store.writeChecked
  -- Both stores make the same checks, since they differ in their capacities only.
  rw [checkKey_congr hkey key, checkValue_congr hvalue value]
  cases (do return (← t.checkKey key, ← t.checkValue value) : Except Failure _) with
  | error failure => exact h.refuse place failure failure
  | ok checked =>
    dsimp only
    unfold write
    rw [h.limits.limit_low, h.limits.limit_high]
    cases checked.2 with
    | some value => exact h.put place checked.1 value
    | none => exact h.remove place checked.1

/-- **An operation on a compartment is no worse with more room.** -/
theorem outcome_at (h : Covers low high s t)
    (hplace : operation.place? = some place ∨ operation = .clear) :
    Outcome.Covers (high place - low place) place (s.outcome operation) (t.outcome operation) := by
  rcases outcome_cases hplace with ⟨failure, hrefused⟩ | ⟨key, value, hwrites⟩ | ⟨-, hempties⟩
  · rw [hrefused, hrefused]
    exact h.refuse place failure failure
  · rw [hwrites, hwrites]
    exact h.writeChecked place key value
  · refine ⟨fun _ => (hempties t).1, ?_⟩
    rw [(hempties s).2, (hempties t).2]
    exact .empty (Int.sub_nonneg_of_le (h.limits.le place))

/-- **Every operation keeps it this way.** -/
theorem outcome (h : Covers low high s t) (operation : Operation) :
    Covers low high (s.outcome operation).store (t.outcome operation).store where
  limits := by
    rw [(step_outcome s operation).limits_eq, (step_outcome t operation).limits_eq]
    exact h.limits
  vars place := by
    by_cases hplace : operation.place? = some place ∨ operation = .clear
    · exact (h.outcome_at hplace).vars
    · rw [not_or] at hplace
      rw [vars_outcome_of_ne hplace.2 hplace.1, vars_outcome_of_ne hplace.2 hplace.1]
      exact h.vars place

/-- **What succeeds with less room succeeds with more.** -/
theorem result (h : Covers low high s t) (hname : operation.ClearsByName)
    (hok : (s.outcome operation).result = .ok ()) : (t.outcome operation).result = .ok () := by
  cases hplace : operation.place? with
  | some place => exact (h.outcome_at (Or.inl hplace)).result hok
  | none =>
    cases operation with
    | setGlobal | clearGlobals => cases hplace
    | setScript script key value =>
      rw [Store.outcome] at hok
      rcases setScript_cases script key value with ⟨failure, hrefused⟩ | ⟨name, -, rfl, -⟩
      · rw [hrefused] at hok
        cases hok
      · cases hplace
    | clearScript script =>
      obtain ⟨name, rfl⟩ := hname
      cases hplace
    | clear => rfl

theorem after (h : Covers low high s t) (operations : List Operation) :
    Covers low high (s.after operations) (t.after operations) := by
  induction operations generalizing s t with
  | nil => exact h
  | cons operation rest ih => exact ih (h.outcome operation)

end Covers

end Store

end BoundedVars
