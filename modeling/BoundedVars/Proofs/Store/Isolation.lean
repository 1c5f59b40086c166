import BoundedVars.Proofs.Store.Compartments
import BoundedVars.Proofs.Store.Results

/-!
# Compartments are isolated from each other

What an operation makes of a compartment depends on the limits and on the variables of that
compartment and on nothing else in the store, and so does how it ends if it is addressed to the
compartment (`AgreesOn.alike`, `AgreesOn.outcome`).  Therefore operations on other compartments can
be left out of a sequence and nobody who looks at this one can tell (`AgreesOn.after_filter`).
-/

namespace BoundedVars

/-- A single compartment, and another one than this. -/
def Compartment.isOther (place : Compartment) : Option Compartment → Bool
  | some other => other != place
  | none => false

/-- Two outcomes look alike from a compartment: they end alike, whatever the level of the log, and
leave the same variables in it. -/
structure Outcome.Alike (place : Compartment) (o p : Outcome) : Prop where
  resultAt : ∀ level, p.resultAt level = o.resultAt level
  vars : p.store.vars place = o.store.vars place

theorem Outcome.alike_of_eq {place : Compartment} {o p : Outcome} (hnotices : p.notices = o.notices)
    (hresult : p.result = o.result) (hvars : p.store.vars place = o.store.vars place) :
    Alike place o p where
  resultAt level := by rw [Outcome.resultAt, Outcome.resultAt, hnotices, hresult]
  vars := hvars

namespace Store

variable {s t : Store} {place : Compartment}

/-- Two stores agree on a compartment: they have the same limits, and the same variables in it, in
the same order. -/
structure AgreesOn (place : Compartment) (s t : Store) : Prop where
  limits : t.limits = s.limits
  vars : t.vars place = s.vars place

theorem AgreesOn.refl (place : Compartment) (s : Store) : AgreesOn place s s :=
  ⟨rfl, rfl⟩

/-- An operation is addressed to a single compartment, and it is another one. -/
def Operation.isElsewhere (place : Compartment) (operation : Operation) : Bool :=
  place.isOther operation.place?

/-- All messages about clearing can be rendered. -/
theorem Operation.IsClearing.renders {operation : Operation} (h : operation.IsClearing)
    (s : Store) : Renders (s.outcome operation).notices := by
  refine renders_outcome s ?_
  cases operation with
  | setGlobal | setScript => cases h
  | _ => trivial

/-! ### One operation -/

namespace AgreesOn

theorem reject (h : AgreesOn place s t) (key : String) (bound : Bound) :
    Outcome.Alike place (s.reject place key bound) (t.reject place key bound) := by
  unfold Store.reject
  cases bound.text with
  | error failure => exact Outcome.alike_of_eq rfl rfl h.vars
  | ok shown => exact Outcome.alike_of_eq rfl rfl h.vars

theorem put (h : AgreesOn place s t) (key value : String) (capacity : Value) :
    Outcome.Alike place (s.put place key value capacity) (t.put place key value capacity) := by
  unfold Store.put
  rw [h.vars]
  dsimp only
  split_ifs
  · exact Outcome.alike_of_eq rfl rfl (by simp [accept])
  · cases capacity.asBound ">=" with
    | error failure => exact Outcome.alike_of_eq rfl rfl h.vars
    | ok bound =>
      dsimp only
      split_ifs
      · exact h.reject key bound
      · exact Outcome.alike_of_eq rfl rfl (by simp [accept])

theorem remove (h : AgreesOn place s t) (key : String) :
    Outcome.Alike place (s.remove place key) (t.remove place key) := by
  unfold Store.remove
  rw [h.vars]
  dsimp only
  split_ifs
  · exact Outcome.alike_of_eq rfl rfl (by simp [accept])
  · exact Outcome.alike_of_eq rfl rfl h.vars

theorem writeChecked (h : AgreesOn place s t) (key value : Value) :
    Outcome.Alike place (s.writeChecked place key value) (t.writeChecked place key value) := by
  unfold Store.writeChecked
  rw [checkKey_congr (lengthBound_congr h.limits _) key,
    checkValue_congr (lengthBound_congr h.limits _) value]
  cases (do return (← s.checkKey key, ← s.checkValue value) : Except Failure _) with
  | error failure => exact Outcome.alike_of_eq rfl rfl h.vars
  | ok checked =>
    dsimp only
    unfold write
    rw [h.limits]
    cases s.limits.limit (capacityLimit place) with
    | error failure => exact Outcome.alike_of_eq rfl rfl h.vars
    | ok capacity =>
      cases checked.2 with
      | some value => exact h.put checked.1 value capacity
      | none => exact h.remove checked.1

/-- **An operation on a compartment looks alike from it** in all stores that agree on it. -/
theorem alike (h : AgreesOn place s t) {operation : Operation}
    (hplace : operation.place? = some place ∨ operation = .clear) :
    Outcome.Alike place (s.outcome operation) (t.outcome operation) := by
  rcases outcome_cases hplace with
    ⟨failure, hrefused⟩ | ⟨key, value, hwrites⟩ | ⟨hclearing, hempties⟩
  · rw [hrefused, hrefused]
    exact Outcome.alike_of_eq rfl rfl h.vars
  · rw [hwrites, hwrites]
    exact h.writeChecked key value
  · -- What is announced may differ, but it all can be rendered.
    refine ⟨fun level => ?_, (hempties t).2.trans (hempties s).2.symm⟩
    rw [Outcome.resultAt_of_renders (hclearing.renders t),
      Outcome.resultAt_of_renders (hclearing.renders s), (hempties t).1, (hempties s).1]

/-- Any operation keeps stores in agreement on a compartment. -/
theorem outcome (h : AgreesOn place s t) (operation : Operation) :
    AgreesOn place (s.outcome operation).store (t.outcome operation).store where
  limits := by
    rw [(step_outcome t operation).limits_eq, (step_outcome s operation).limits_eq, h.limits]
  vars := by
    by_cases hplace : operation.place? = some place ∨ operation = .clear
    · exact (h.alike hplace).vars
    · rw [not_or] at hplace
      rw [vars_outcome_of_ne hplace.2 hplace.1, vars_outcome_of_ne hplace.2 hplace.1, h.vars]

/-- An operation elsewhere keeps a store in agreement with the one that does without. -/
theorem outcome_elsewhere (h : AgreesOn place s t) {operation : Operation}
    (helsewhere : operation.isElsewhere place = true) :
    AgreesOn place (s.outcome operation).store t where
  limits := by rw [(step_outcome s operation).limits_eq, h.limits]
  vars := by
    have hne : operation.place? ≠ some place := by
      intro heq
      rw [Operation.isElsewhere, heq, Compartment.isOther, bne_self_eq_false] at helsewhere
      cases helsewhere
    have hclear : operation ≠ .clear := by
      rintro rfl
      cases helsewhere
    rw [vars_outcome_of_ne hclear hne, h.vars]

/-! ### One operation after another -/

/-- **Operations elsewhere can be left out.** -/
theorem after_filter (h : AgreesOn place s t) (operations : List Operation) :
    AgreesOn place (s.after operations)
      (t.after (operations.filter fun operation => !operation.isElsewhere place)) := by
  induction operations generalizing s t with
  | nil => exact h
  | cons operation rest ih =>
    rw [List.filter_cons]
    cases helsewhere : operation.isElsewhere place with
    | true => exact ih (h.outcome_elsewhere helsewhere)
    | false => exact ih (h.outcome operation)

end AgreesOn

end Store

end BoundedVars
