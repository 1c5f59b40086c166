import BoundedVars.Proofs.Session.Sequential
import BoundedVars.Proofs.Store.Isolation

/-!
# Nobody can tell what happens in other compartments

A call is addressed to a compartment: to the tier of global variables or to a script, which a
context may name.  Leaving out of a sequence of calls all those that are addressed to other
compartments (`Call.purged`) does not show in this one: at every point it holds the same variables
in the same order, and every call addressed to it ends alike (`indistinguishable_purged`).

Views are told apart by numbers that are given out over all calls, so only these differ.
-/

namespace BoundedVars

namespace Call

variable {h : Heap} {place : Compartment} {call : Call} {operation : Store.Operation}

/-- The one compartment that a call is addressed to.  Clearing everything is addressed to all of
them, and what concerns the store as a whole to none. -/
def place? (h : Heap) (call : Call) : Option Compartment :=
  match call.resolved h with
  | .ok (.update operation) => operation.place?
  | .ok (.getGlobal _) | .ok .getGlobals => some .global
  | .ok (.getScript script _) | .ok (.getScriptVars script) => Store.scriptPlace? script
  | _ => none

/-- A call is addressed to a compartment, be it to all others as well. -/
def Concerns (h : Heap) (place : Compartment) (call : Call) : Prop :=
  call.place? h = some place ∨ call = .update .clear

/-- A call is addressed to a single compartment, and it is another one. -/
def isElsewhere (h : Heap) (place : Compartment) (call : Call) : Bool :=
  place.isOther (call.place? h)

/-- The calls but for those addressed to other compartments. -/
def purged (h : Heap) (place : Compartment) (calls : List Call) : List Call :=
  calls.filter fun call => !call.isElsewhere h place

theorem place?_of_operation? (hoperation : call.operation? h = some operation) :
    call.place? h = operation.place? := by
  rw [place?, resolved_of_operation? hoperation]

theorem isElsewhere_of_operation? (hoperation : call.operation? h = some operation) :
    call.isElsewhere h place = operation.isElsewhere place := by
  rw [isElsewhere, place?_of_operation? hoperation, Store.Operation.isElsewhere]

theorem operation?_concerns (hcall : call.Concerns h place)
    (hoperation : call.operation? h = some operation) :
    operation.place? = some place ∨ operation = .clear := by
  rcases hcall with hplace | rfl
  · exact Or.inl ((place?_of_operation? hoperation).symm.trans hplace)
  · exact Or.inr (Option.some.inj hoperation).symm

/-- Purging calls purges their operations. -/
theorem operations_purged (h : Heap) (place : Compartment) (calls : List Call) :
    operations h (purged h place calls) =
      (operations h calls).filter fun operation => !operation.isElsewhere place := by
  rw [operations, purged, List.filterMap_filter, operations, List.filter_filterMap]
  refine List.filterMap_congr fun call _ => ?_
  cases hoperation : call.operation? h with
  | none => cases call.isElsewhere h place <;> rfl
  | some operation =>
    rw [isElsewhere_of_operation? hoperation]
    cases helsewhere : operation.isElsewhere place <;> simp [Option.filter, helsewhere]

end Call

/-- A result but for the number by which a view is told from others. -/
def Result.unnumbered : Result → Result
  | .value (.view _ entries) => .value (.view 0 entries)
  | result => result

namespace Run

open Session

variable {react : Reactor} {address : Nat} {place : Compartment} {t u : Session} {call : Call}

/-- Views of the same variables look alike. -/
theorem on_viewOf_unnumbered (vars : Vars) :
    ((viewOf vars).on u).1.map Result.unnumbered =
      ((viewOf vars).on t).1.map Result.unnumbered := by
  obtain ⟨n, fresh, hu⟩ := on_viewOf u vars
  obtain ⟨m, fresh', ht⟩ := on_viewOf t vars
  rw [hu, ht]
  rfl

/-- Reading from a compartment depends on its variables only. -/
theorem on_call_unnumbered_of_resolved (react : Reactor) {h : Heap}
    (hresolved : call.resolved h = .ok call) (hread : ∀ operation, call ≠ .update operation)
    (hplace : call.place? h = some place)
    (hvars : (u.heap.store address).vars place = (t.heap.store address).vars place) :
    ((Run.call react address call).on u).1.map Result.unnumbered =
      ((Run.call react address call).on t).1.map Result.unnumbered := by
  -- Of a script a call reads only the compartment that the two stores agree on.
  have hscript {script : Value} (hscript : Store.scriptPlace? script = some place) :
      (u.heap.store address).scriptVars script = (t.heap.store address).scriptVars script := by
    cases script with
    | text name =>
      obtain rfl := Option.some.inj hscript
      exact hvars
    | _ => cases hscript
  rw [Call.place?, hresolved] at hplace
  cases call with
  | update operation => exact absurd rfl (hread operation)
  | updateFromContext | getFromContext | getVarsFromContext =>
    obtain ⟨name, -, hok⟩ := Except.bind_eq_ok_iff.mp hresolved
    cases Except.ok.inj hok
  | getGlobal key =>
    obtain rfl := Option.some.inj hplace
    have hglobals : (u.heap.store address).globals = (t.heap.store address).globals := hvars
    have hget : (u.heap.store address).getGlobal key = (t.heap.store address).getGlobal key := by
      cases key with
      | text key => rw [Store.getGlobal, Store.getGlobal, hglobals]
      | _ => rfl
    exact congrArg (fun found => (Except.ok (Result.ofText? found)).map Result.unnumbered) hget
  | getGlobals =>
    obtain rfl := Option.some.inj hplace
    have hglobals : (u.heap.store address).globals = (t.heap.store address).globals := hvars
    exact congrArg (fun vars => Except.ok (Result.value (Vars.toView vars 0))) hglobals
  | getScript script key =>
    have hget : (u.heap.store address).getScript script key =
        (t.heap.store address).getScript script key := by
      cases key with
      | text key => rw [Store.getScript, Store.getScript, hscript hplace]
      | _ => rfl
    exact congrArg (fun found => (Except.ok (Result.ofText? found)).map Result.unnumbered) hget
  | getScriptVars script =>
    have hu : (Run.call react address (.getScriptVars script)).on u =
        (viewOf ((t.heap.store address).scriptVars script)).on u := by
      rw [← hscript hplace]
      exact on_bind_ok on_heap
    have ht : (Run.call react address (.getScriptVars script)).on t =
        (viewOf ((t.heap.store address).scriptVars script)).on t := on_bind_ok on_heap
    rw [hu, ht]
    exact on_viewOf_unnumbered _
  | limits | scriptNames | snapshot | summary => cases hplace

/-- **A call addressed to a compartment ends alike** in sessions whose stores agree on it. -/
theorem on_call_unnumbered (hreact : react .record = pure ()) (ht : t.TakesNote) (hu : u.TakesNote)
    (hcall : call.Concerns t.heap place)
    (hresolved : call.resolved u.heap = call.resolved t.heap) (hlevel : u.level = t.level)
    (hagree : Store.AgreesOn place (t.heap.store address) (u.heap.store address)) :
    ((Run.call react address call).on u).1.map Result.unnumbered =
      ((Run.call react address call).on t).1.map Result.unnumbered := by
  cases hoperation : call.operation? t.heap with
  | some operation =>
    have hoperation' : call.operation? u.heap = some operation := by
      rw [Call.operation?, hresolved, ← hoperation, Call.operation?]
    rw [on_call_fst_of_takesNote hreact ht address hoperation,
      on_call_fst_of_takesNote hreact hu address hoperation', hlevel,
      (hagree.alike (Call.operation?_concerns hcall hoperation)).resultAt]
  | none =>
    -- A call that carries out nothing concerns the compartment that it reads.
    have hplace : call.place? t.heap = some place := by
      refine hcall.resolve_right ?_
      rintro rfl
      cases hoperation
    rw [on_call_resolved, on_call_resolved react address t, hresolved]
    cases hfound : call.resolved t.heap with
    | error failure => rfl
    | ok resolved =>
      -- Once the context is resolved, resolving the call again changes nothing.
      have hagain := Call.resolved_of_resolved hfound t.heap
      refine on_call_unnumbered_of_resolved react hagain ?_ ?_ hagree.vars
      · rintro operation rfl
        rw [Call.operation?, hfound] at hoperation
        cases hoperation
      · rw [Call.place?, hagain, ← hplace, Call.place?, hfound]

end Run

namespace Session

variable {s : Session} {address : Nat}

/-- **Nobody can tell what happens in other compartments.**  After any calls, with whatever limits
and at whatever level of the log, a compartment holds what it holds after those of the calls that
are not addressed to others, and every call addressed to it ends alike; receivers may take note. -/
theorem indistinguishable_purged (budget : Nat) (place : Compartment)
    (haddress : address < s.heap.stores.size) (hnote : s.TakesNote) (calls : List Call) :
    let t := s.after budget (calls.map (.call address))
    let u := s.after budget ((Call.purged s.heap place calls).map (.call address))
    (u.heap.store address).vars place = (t.heap.store address).vars place ∧
      ∀ call : Call, call.Concerns s.heap place →
        ((Run.call (Run.react budget) address call).on u).1.map Result.unnumbered =
          ((Run.call (Run.react budget) address call).on t).1.map Result.unnumbered := by
  intro t u
  have ht : Carried address (Call.operations s.heap calls) s t :=
    carried_after budget hnote haddress calls
  have hu : Carried address (Call.operations s.heap (Call.purged s.heap place calls)) s u :=
    carried_after budget hnote haddress _
  -- In both sessions the store has been through operations; those left out are addressed elsewhere.
  have hagree : Store.AgreesOn place (t.heap.store address) (u.heap.store address) := by
    rw [ht.store haddress, hu.store haddress, Call.operations_purged]
    exact (Store.AgreesOn.refl place _).after_filter _
  refine ⟨hagree.vars, fun call hcall => ?_⟩
  have hresolved := (hu.resolved call).trans (ht.resolved call).symm
  refine Run.on_call_unnumbered (Run.react_record budget) ht.takesNote hu.takesNote ?_ hresolved
    (hu.level.trans ht.level.symm) hagree
  rw [Call.Concerns, Call.place?, ht.resolved]
  exact hcall

/-- A script that finds no room for its second variable cannot tell what the other script did. -/
theorem indistinguishable_purged_full :
    let s := withStore (Limits.toValue ⟨1, 1, 3, 3⟩ 0)
    let calls : List Call := [.update (.setScript (.text "b") (.text "k") (.text "1")),
      .update (.setScript (.text "a") (.text "k") (.text "2")), .update (.clearScript (.text "b"))]
    let t := s.after 0 (calls.map (.call 0))
    let u := s.after 0 ([.update (.setScript (.text "a") (.text "k") (.text "2"))].map (.call 0))
    let next : Call := .update (.setScript (.text "a") (.text "j") (.text "3"))
    ((Run.call (Run.react 0) 0 next).on u).1.map Result.unnumbered =
      ((Run.call (Run.react 0) 0 next).on t).1.map Result.unnumbered := by
  intro s calls t u next
  exact (indistinguishable_purged 0 (.script "a") (by decide)
    (hearsChanges_withStore _).takesNote calls).2 _ (Or.inl rfl)

end Session

end BoundedVars
