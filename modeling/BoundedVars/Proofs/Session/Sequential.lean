import BoundedVars.Proofs.Context
import BoundedVars.Proofs.Session.Concluding
import BoundedVars.Proofs.Session.Development

/-!
# Calls one after another

Some calls carry out an operation on their store (`Call.operation?`), and the others only read or
fail.  Where receivers only take note, all that a sequence of calls does is to carry out its
operations, one after another (`carried_after`): the heap is as before but for the store itself, so
in particular every context still names the same script.

How such a call ends is then up to the state of the store and to the log alone
(`on_call_fst_of_takesNote`).  Other receivers can do one thing about it: if one fails and its
failure has no wording, the call fails, although its operation has been carried out
(`on_call_fst`).
-/

namespace BoundedVars

namespace Call

variable {h : Heap} {call : Call} {operation : Store.Operation}

/-- The operation that a call carries out on its store, if any. -/
def operation? (h : Heap) (call : Call) : Option Store.Operation :=
  match call.resolved h with
  | .ok (.update operation) => some operation
  | _ => none

/-- The operations that calls carry out on their store. -/
def operations (h : Heap) (calls : List Call) : List Store.Operation :=
  calls.filterMap (·.operation? h)

@[simp] theorem operation?_update (h : Heap) (operation : Store.Operation) :
    (update operation).operation? h = some operation := rfl

theorem resolved_of_operation? (hoperation : call.operation? h = some operation) :
    call.resolved h = .ok (.update operation) := by
  unfold operation? at hoperation
  split at hoperation
  · obtain rfl := Option.some.inj hoperation
    assumption
  · cases hoperation

/-- A call that carries out an operation says so, or it writes to the script of a context. -/
theorem operation?_cases (hoperation : call.operation? h = some operation) :
    call = .update operation ∨ ∃ context key value name,
      call = .updateFromContext context key value ∧ h.scriptName context = .ok name ∧
        operation = .setScript (.text name) key value := by
  have hresolved := resolved_of_operation? hoperation
  cases call with
  | updateFromContext context key value =>
    obtain ⟨name, hname, hok⟩ := Except.bind_eq_ok_iff.mp hresolved
    exact Or.inr ⟨context, key, value, name, rfl, hname, (update.inj (Except.ok.inj hok)).symm⟩
  | getFromContext | getVarsFromContext =>
    obtain ⟨name, -, hok⟩ := Except.bind_eq_ok_iff.mp hresolved
    cases Except.ok.inj hok
  | _ => exact Or.inl (Except.ok.inj hresolved)

/-- Which script a call concerns does not depend on stores. -/
@[simp] theorem resolved_setStore (h : Heap) (address : Nat) (store : Store) (call : Call) :
    call.resolved (h.setStore address store) = call.resolved h := by
  cases call <;> simp only [resolved, Heap.scriptName_setStore]

@[simp] theorem operation?_setStore (h : Heap) (address : Nat) (store : Store) (call : Call) :
    call.operation? (h.setStore address store) = call.operation? h := by
  rw [operation?, resolved_setStore, operation?]

@[simp] theorem operations_setStore (h : Heap) (address : Nat) (store : Store)
    (calls : List Call) : operations (h.setStore address store) calls = operations h calls := by
  simp only [operations, operation?_setStore]

end Call

namespace Session

variable {s t u : Session} {address : Nat}

/-- A session in which operations were carried out on a store, and nothing else that counts. -/
structure Carried (address : Nat) (operations : List Store.Operation) (s t : Session) : Prop where
  heap : t.heap = s.heap.setStore address ((s.heap.store address).after operations)
  level : t.level = s.level
  takesNote : t.TakesNote

namespace Carried

variable {operations more : List Store.Operation}

theorem nil (hheap : t.heap = s.heap) (hlevel : t.level = s.level) (hnote : t.TakesNote) :
    Carried address [] s t where
  heap := by rw [Store.after_nil, Heap.setStore_store, hheap]
  level := hlevel
  takesNote := hnote

theorem size_stores (h : Carried address operations s t) :
    t.heap.stores.size = s.heap.stores.size := by
  rw [h.heap, Heap.size_setStore]

theorem store (h : Carried address operations s t) (haddress : address < s.heap.stores.size) :
    t.heap.store address = (s.heap.store address).after operations := by
  rw [h.heap, Heap.store_setStore_self haddress]

/-- Contexts still name the same scripts. -/
theorem resolved (h : Carried address operations s t) (call : Call) :
    call.resolved t.heap = call.resolved s.heap := by
  rw [h.heap, Call.resolved_setStore]

theorem operation? (h : Carried address operations s t) (call : Call) :
    call.operation? t.heap = call.operation? s.heap := by
  rw [h.heap, Call.operation?_setStore]

theorem trans (hst : Carried address operations s t) (htu : Carried address more t u)
    (haddress : address < s.heap.stores.size) : Carried address (operations ++ more) s u where
  heap := by
    rw [htu.heap, hst.store haddress, hst.heap, Heap.setStore_setStore, Store.after_append]
  level := htu.level.trans hst.level
  takesNote := htu.takesNote

end Carried

end Session

namespace Run

open Session

variable {react : Reactor} {s : Session} {call : Call} {operation : Store.Operation}

/-- A call that carries out an operation is that operation. -/
theorem on_call_of_operation (react : Reactor) (address : Nat)
    (hoperation : call.operation? s.heap = some operation) :
    (Run.call react address call).on s =
      (((operate react address operation).on s).1.map fun _ => .nothing,
        ((operate react address operation).on s).2) := by
  rw [on_call_resolved, Call.resolved_of_operation? hoperation]
  exact on_update react address s operation

/-- **How a call ends** that carries out an operation: as the operation does, unless announcing its
changes breaks off. -/
theorem on_call_fst (react : Reactor) (address : Nat)
    (hoperation : call.operation? s.heap = some operation) :
    let outcome := (s.heap.store address).outcome operation
    ((Run.call react address call).on s).1 =
        (outcome.resultAt s.level).map (fun _ => .nothing) ∨
      ∃ unshown u, (Run.call react address call).on s = (.error unshown, u) ∧
        Interrupted react address outcome (changed s address operation) unshown u := by
  intro outcome
  rw [on_call_of_operation react address hoperation]
  rcases on_operate_fst react address s operation with hends | ⟨unshown, u, hinterrupted⟩
  · exact Or.inl (congrArg (Except.map _) hends)
  · refine Or.inr ⟨unshown, u, ?_, hinterrupted⟩
    rw [on_operate, hinterrupted.ends]
    rfl

/-- Where receivers only take note it ends as the operation does. -/
theorem on_call_fst_of_takesNote (hreact : react .record = pure ()) (hnote : s.TakesNote)
    (address : Nat) (hoperation : call.operation? s.heap = some operation) :
    ((Run.call react address call).on s).1 =
      (((s.heap.store address).outcome operation).resultAt s.level).map fun _ => .nothing := by
  obtain ⟨t, hoperate, -⟩ := on_operate_of_takesNote hreact hnote address operation
  rw [on_call_of_operation react address hoperation, hoperate]

/-- What a call leaves that carries out an operation. -/
theorem on_call_snd (react : Reactor) (address : Nat)
    (hoperation : call.operation? s.heap = some operation) :
    ((Run.call react address call).on s).2 =
      ((conclude react address ((s.heap.store address).outcome operation)).on
        (changed s address operation)).2 := by
  rw [on_call_of_operation react address hoperation, on_operate]

/-- Where only warnings are recorded and receivers only take note, a call succeeds if its operation
does. -/
theorem on_call_succeeds_iff (hreact : react .record = pure ()) (hnote : s.TakesNote)
    (address : Nat) (hquiet : Log.records s.level .debug = false)
    (hoperation : call.operation? s.heap = some operation) :
    (∃ result, ((Run.call react address call).on s).1 = .ok result) ↔
      ((s.heap.store address).outcome operation).result = .ok () := by
  rw [← (Store.step_outcome _ operation).conduct.resultAt_eq_ok_iff hquiet,
    on_call_fst_of_takesNote hreact hnote address hoperation]
  constructor
  · rintro ⟨result, hok⟩
    obtain ⟨⟨⟩, hresult, -⟩ := Except.map_eq_ok_iff.mp hok
    exact hresult
  · intro hresult
    exact ⟨.nothing, Except.map_eq_ok_iff.mpr ⟨(), hresult, rfl⟩⟩

/-- A call that carries out no operation changes nothing but numbers of views, and fails only for
want of a script. -/
theorem on_call_of_no_operation (react : Reactor) (address : Nat)
    (hread : call.operation? s.heap = none) :
    ∃ result fresh, (Run.call react address call).on s = (result, { s with fresh := fresh }) ∧
      ∀ failure, result = .error failure ↔ call.resolved s.heap = .error failure := by
  rw [on_call_resolved]
  cases hresolved : call.resolved s.heap with
  | error failure =>
    refine ⟨.error failure, s.fresh, rfl, fun other => ?_⟩
    rw [Except.error.injEq, Except.error.injEq]
  | ok resolved =>
    have hnone : ∀ operation, resolved ≠ .update operation := by
      rintro operation rfl
      rw [Call.operation?, hresolved] at hread
      cases hread
    obtain ⟨result, fresh, hcall⟩ := on_call_of_resolved react address s
      (Call.resolved_of_resolved hresolved s.heap) hnone
    exact ⟨.ok result, fresh, hcall, fun failure => ⟨nofun, nofun⟩⟩

/-- **A call carries out its operation**, if receivers only take note. -/
theorem carried_call (hreact : react .record = pure ()) (hnote : s.TakesNote) (address : Nat)
    (call : Call) :
    Carried address (call.operation? s.heap).toList s ((Run.call react address call).on s).2 := by
  cases hoperation : call.operation? s.heap with
  | none =>
    obtain ⟨result, fresh, hcall, -⟩ := on_call_of_no_operation react address hoperation
    rw [hcall]
    exact .nil rfl rfl hnote
  | some operation =>
    obtain ⟨t, hoperate, hundisturbed⟩ := on_operate_of_takesNote hreact hnote address operation
    rw [on_call_of_operation react address hoperation, hoperate]
    exact ⟨hundisturbed.heap, hundisturbed.level, hundisturbed.takesNote hnote⟩

end Run

namespace Session

variable {s : Session} {address : Nat}

/-- **Calls carry out their operations**, one after another, if receivers only take note. -/
theorem carried_after (budget : Nat) (hnote : s.TakesNote)
    (haddress : address < s.heap.stores.size) (calls : List Call) :
    Carried address (Call.operations s.heap calls) s
      (s.after budget (calls.map (.call address))) := by
  induction calls generalizing s with
  | nil => exact .nil rfl rfl hnote
  | cons call rest ih =>
    have hcall := Run.carried_call (Run.react_record budget) hnote address call
    have hrest := ih hcall.takesNote (hcall.size_stores.symm ▸ haddress)
    -- The heap differs in the store only, so the rest carries out the same operations as before.
    rw [hcall.heap, Call.operations_setStore] at hrest
    have hoperations : Call.operations s.heap (call :: rest) =
        (call.operation? s.heap).toList ++ Call.operations s.heap rest := by
      rw [Call.operations, List.filterMap_cons]
      cases call.operation? s.heap <;> rfl
    rw [hoperations]
    exact hcall.trans hrest haddress

end Session

end BoundedVars
