import BoundedVars.Proofs.Except
import BoundedVars.Proofs.Session.Running
import Mathlib.Tactic.SplitIfs

/-!
# Calls with and without a context

A call with a context does what the call with the script of that context does, and fails when there
is none (`Run.on_call_resolved`).  So only the calls that name their script have to be looked at.
-/

namespace BoundedVars

/-- A call with the script of its context in the place of the context. -/
def Call.resolved (h : Heap) : Call → Except Failure Call
  | .updateFromContext context key value => do
    return .update (.setScript (.text (← h.scriptName context)) key value)
  | .getFromContext context key => do return .getScript (.text (← h.scriptName context)) key
  | .getVarsFromContext context => do return .getScriptVars (.text (← h.scriptName context))
  | call => .ok call

/-- A call that names its script is not changed, and the others become such a call. -/
theorem Call.resolved_of_resolved {h : Heap} {call resolved : Call}
    (hresolved : call.resolved h = .ok resolved) (other : Heap) :
    resolved.resolved other = .ok resolved := by
  cases call with
  | updateFromContext | getFromContext | getVarsFromContext =>
    obtain ⟨name, -, hok⟩ := Except.bind_eq_ok_iff.mp hresolved
    obtain rfl := Except.ok.inj hok
    rfl
  | _ =>
    obtain rfl := Except.ok.inj hresolved
    rfl

namespace Run

variable (react : Reactor) (address : Nat) (s : Session)

/-- A call that changes the store ends like the operation. -/
theorem on_update (operation : Store.Operation) :
    (Run.call react address (.update operation)).on s =
      (((operate react address operation).on s).1.map fun _ => Result.nothing,
        ((operate react address operation).on s).2) := by
  cases h : (operate react address operation).on s with
  | mk result t =>
    cases result with
    | ok => exact on_bind_ok h
    | error failure => exact on_bind_error h

/-- Asking for the script of a context. -/
theorem on_scriptOf (context : Value) :
    (scriptOf context).on s = ((s.heap.scriptName context).map .text, s) := by
  have hread : (read fun h => h.scriptName context).on s = (s.heap.scriptName context, s) :=
    on_read _
  cases hname : s.heap.scriptName context with
  | ok name =>
    rw [hname] at hread
    exact on_bind_ok hread
  | error failure =>
    rw [hname] at hread
    exact on_bind_error hread

/-- The script of a context, asked for before anything else. -/
theorem on_scriptOf_bind (context : Value) (next : Value → Run Result) :
    (scriptOf context >>= next).on s =
      match s.heap.scriptName context with
      | .ok name => (next (.text name)).on s
      | .error failure => (.error failure, s) := by
  rw [on_bind, on_scriptOf]
  cases s.heap.scriptName context <;> rfl

/-- Variables are handed out as a view of them, also where there are none. -/
theorem on_viewOf (vars : Vars) :
    ∃ n fresh, (viewOf vars).on s = (.ok (.value (vars.toView n)), { s with fresh := fresh }) := by
  unfold viewOf
  split_ifs with hempty
  · rw [Table.eq_empty_of_isEmpty hempty]
    exact ⟨0, s.fresh, rfl⟩
  · exact ⟨s.fresh, s.fresh + 1, rfl⟩

/-- A call that names its script and changes nothing succeeds and uses up numbers of views, and that
is all. -/
theorem on_call_of_resolved {call : Call} (hresolved : call.resolved s.heap = .ok call)
    (hread : ∀ operation, call ≠ .update operation) :
    ∃ result fresh,
      (Run.call react address call).on s = (.ok result, { s with fresh := fresh }) := by
  cases call with
  | update operation => exact absurd rfl (hread operation)
  | updateFromContext | getFromContext | getVarsFromContext =>
    obtain ⟨name, -, hok⟩ := Except.bind_eq_ok_iff.mp hresolved
    cases Except.ok.inj hok
  | getScriptVars script =>
    obtain ⟨n, fresh, hview⟩ := on_viewOf s ((s.heap.store address).scriptVars script)
    exact ⟨_, fresh, (on_bind_ok on_heap).trans hview⟩
  | getGlobals => exact ⟨_, s.fresh + 1, rfl⟩
  | snapshot => exact ⟨_, s.fresh + (s.heap.store address).snapshotSize, rfl⟩
  | _ => exact ⟨_, s.fresh, rfl⟩

/-- **A call with a context does what the call with its script does.** -/
theorem on_call_resolved (call : Call) :
    (Run.call react address call).on s =
      match call.resolved s.heap with
      | .ok resolved => (Run.call react address resolved).on s
      | .error failure => (.error failure, s) := by
  cases call with
  | updateFromContext context key value =>
    refine (on_scriptOf_bind s context _).trans ?_
    rw [Call.resolved]
    cases s.heap.scriptName context <;> rfl
  | getFromContext context key =>
    refine (on_scriptOf_bind s context _).trans ?_
    rw [Call.resolved]
    cases s.heap.scriptName context <;> rfl
  | getVarsFromContext context =>
    refine (on_scriptOf_bind s context _).trans ?_
    rw [Call.resolved]
    cases s.heap.scriptName context <;> rfl
  | _ => rfl

end Run

end BoundedVars
