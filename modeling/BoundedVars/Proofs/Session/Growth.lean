import BoundedVars.Proofs.Session.Sequential
import BoundedVars.Proofs.Store.Growth

/-!
# Calls on a store with more room

The same calls are made on two new stores that bound lengths alike, one of which has at least the
capacities of the other.  However their contents diverge, every variable of the smaller store is in
the larger one with the same value, and a call that succeeds on the smaller store succeeds on the
larger one (`succeeds_with_more_room`).
-/

namespace BoundedVars

/-- A call that clears a script is given its name as a text. -/
def Call.ClearsByName : Call → Prop
  | .update operation => operation.ClearsByName
  | _ => True

theorem Call.ClearsByName.operation {h : Heap} {call : Call} {operation : Store.Operation}
    (hcall : call.ClearsByName) (hoperation : call.operation? h = some operation) :
    operation.ClearsByName := by
  have hresolved := Call.resolved_of_operation? hoperation
  cases call with
  | update =>
    obtain rfl := Call.update.inj (Except.ok.inj hresolved)
    exact hcall
  | updateFromContext =>
    obtain ⟨name, -, hok⟩ := Except.bind_eq_ok_iff.mp hresolved
    obtain rfl := Call.update.inj (Except.ok.inj hok)
    trivial
  | getFromContext | getVarsFromContext =>
    obtain ⟨name, -, hok⟩ := Except.bind_eq_ok_iff.mp hresolved
    cases Except.ok.inj hok
  | _ => cases Except.ok.inj hresolved

/-- A number for the global tier, and another one for each script. -/
def Compartment.byTier (global script : Int) : Compartment → Int
  | .global => global
  | .script _ => script

theorem Store.roomier_limits {globals globals' scripts scripts' : Int}
    (hglobals : globals ≤ globals') (hscripts : scripts ≤ scripts') (n m : Nat)
    (keySize valueSize : Value) :
    Store.Roomier (Compartment.byTier globals scripts) (Compartment.byTier globals' scripts')
      (.limits n (.int globals) (.int scripts) keySize valueSize)
      (.limits m (.int globals') (.int scripts') keySize valueSize) where
  keySize := rfl
  valueSize := rfl
  limit_low place := by cases place <;> rfl
  limit_high place := by cases place <;> rfl
  le place := by
    cases place with
    | global => exact hglobals
    | script => exact hscripts

namespace Session

variable {s : Session} {small large n m : Nat} {globals globals' scripts scripts' : Int}
  {keySize valueSize : Value}

/-- **More room never hurts.**  After any calls, a store holds all variables, with the same values,
that a store with smaller capacities holds after the same calls, and the next call succeeds on it if
it does on the smaller one. -/
theorem succeeds_with_more_room (budget : Nat) (hnote : s.TakesNote)
    (hquiet : Log.records s.level .debug = false)
    (hglobals : globals ≤ globals') (hscripts : scripts ≤ scripts')
    (hsmall : small < s.heap.stores.size)
    (hlow : s.heap.store small =
      .new (.limits n (.int globals) (.int scripts) keySize valueSize))
    (hlarge : large < s.heap.stores.size)
    (hhigh : s.heap.store large =
      .new (.limits m (.int globals') (.int scripts') keySize valueSize))
    (calls : List Call) :
    let t := s.after budget (calls.map (.call small))
    let u := s.after budget (calls.map (.call large))
    (∀ place key value, ((t.heap.store small).vars place).get? key = some value →
      ((u.heap.store large).vars place).get? key = some value) ∧
    ∀ call : Call, call.ClearsByName →
      (∃ result, ((Run.call (Run.react budget) small call).on t).1 = .ok result) →
        ∃ result, ((Run.call (Run.react budget) large call).on u).1 = .ok result := by
  intro t u
  have ht : Carried small (Call.operations s.heap calls) s t :=
    carried_after budget hnote hsmall calls
  have hu : Carried large (Call.operations s.heap calls) s u :=
    carried_after budget hnote hlarge calls
  have hcovers : Store.Covers (Compartment.byTier globals scripts)
      (Compartment.byTier globals' scripts') (t.heap.store small) (u.heap.store large) := by
    rw [ht.store hsmall, hu.store hlarge, hlow, hhigh]
    exact (Store.covers_new (Store.roomier_limits hglobals hscripts n m keySize valueSize)).after _
  refine ⟨fun place => (hcovers.vars place).found, fun call hname hok => ?_⟩
  have hquiet_t : Log.records t.level .debug = false := ht.level ▸ hquiet
  have hquiet_u : Log.records u.level .debug = false := hu.level ▸ hquiet
  cases hoperation : call.operation? s.heap with
  | some operation =>
    have ht_operation := (ht.operation? call).trans hoperation
    have hu_operation := (hu.operation? call).trans hoperation
    rw [Run.on_call_succeeds_iff (Run.react_record budget) ht.takesNote _ hquiet_t
      ht_operation] at hok
    rw [Run.on_call_succeeds_iff (Run.react_record budget) hu.takesNote _ hquiet_u hu_operation]
    exact hcovers.result (hname.operation hoperation) hok
  | none =>
    -- Such a call fails only if its context names no script.
    obtain ⟨result, fresh, hcall, hfails⟩ := Run.on_call_of_no_operation (Run.react budget) small
      ((ht.operation? call).trans hoperation)
    obtain ⟨result', fresh', hcall', hfails'⟩ := Run.on_call_of_no_operation (Run.react budget)
      large ((hu.operation? call).trans hoperation)
    rw [hcall] at hok
    rw [hcall']
    obtain ⟨success, rfl⟩ : ∃ success, result = .ok success := hok
    cases result' with
    | ok success' => exact ⟨success', rfl⟩
    | error failure =>
      have hresolved := (hfails' failure).mp rfl
      rw [hu.resolved, ← ht.resolved, ← hfails] at hresolved
      cases hresolved

/-- A session with a store for one variable of each script and one for two, and little logged. -/
def twoStores : Session :=
  let small := Limits.toValue ⟨1, 1, 3, 3⟩ 0
  let large := Limits.toValue ⟨1, 2, 3, 3⟩ 1
  { start with
    heap := ((Heap.empty.newStore (.new small)).2.newStore (.new large)).2
    level := Severity.error.level }

/-- The second variable is rejected by the smaller store only, and does no harm to the third. -/
theorem succeeds_with_more_room_twoStores :
    let calls : List Call := [.update (.setScript (.text "s") (.text "a") (.text "1")),
      .update (.setScript (.text "s") (.text "b") (.text "2")),
      .update (.setScript (.text "s") (.text "a") .none)]
    let t := twoStores.after 0 (calls.map (.call 0))
    let u := twoStores.after 0 (calls.map (.call 1))
    let next : Call := .update (.setScript (.text "s") (.text "c") (.text "3"))
    (∃ result, ((Run.call (Run.react 0) 0 next).on t).1 = .ok result) ∧
      ∃ result, ((Run.call (Run.react 0) 1 next).on u).1 = .ok result := by
  intro calls t u next
  have hnote : twoStores.TakesNote := fun _ _ _ hmem => absurd hmem List.not_mem_nil
  have hok : ∃ result, ((Run.call (Run.react 0) 0 next).on t).1 = .ok result := ⟨.nothing, rfl⟩
  exact ⟨hok, (succeeds_with_more_room 0 hnote (by decide) (by decide) (by decide) (by decide) rfl
    (by decide) rfl calls).2 next trivial hok⟩

end Session

end BoundedVars
