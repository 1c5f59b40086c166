import BoundedVars.Proofs.Key
import BoundedVars.Proofs.Session.Effect

/-!
# Names under which nothing is held

Whoever asks for the variables of a script gets an answer, whatever is handed in as its name: where
no variables are held, there are none to be seen.  Clearing a script that holds nothing does nothing
either, but it looks the name up in the table of scripts first.  So while there are scripts in it,
what cannot be a key cannot be cleared (`Store.clearScript_of_absent`).

Any call of the three leaves the session exactly as it is (`Session.absent_script`).
-/

namespace BoundedVars

namespace Store

variable {s : Store} {script : Value}

/-- No variables are held under a name. -/
def Absent (s : Store) (script : Value) : Prop :=
  (s.scriptVars script).isEmpty = true

theorem Absent.scriptVars_eq (h : s.Absent script) : s.scriptVars script = .empty :=
  Table.eq_empty_of_isEmpty h

theorem Absent.getScript_eq (h : s.Absent script) (key : Value) :
    s.getScript script key = none := by
  cases key with
  | text key => exact congrArg (Table.get? · key) h.scriptVars_eq
  | _ => rfl

/-- Where the scripts in the table have variables, a script without any is not in it. -/
theorem Absent.not_contains {name : String} (h : s.Absent (.text name)) (htidy : s.Tidy) :
    s.scripts.contains name = false := by
  rw [← Table.isSome_get?]
  cases hfound : s.scripts.get? name with
  | none => rfl
  | some vars =>
    have hsome := htidy _ (Table.mem_entries_of_get? hfound)
    have hvars : s.scriptVars (.text name) = vars := by simp [scriptVars, Store.vars, hfound]
    rw [Absent, hvars, hsome] at h
    cases h

/-- How clearing ends when there is nothing to clear: well, unless the name would have to be looked
up and cannot be a key. -/
def absentResult (s : Store) (script : Value) : Except Failure Unit :=
  match script.unhashable? with
  | some kind => if s.scripts.isEmpty then .ok () else .error (.unhashable kind)
  | none => .ok ()

/-- **Clearing what holds nothing** changes nothing and has nothing to tell. -/
theorem clearScript_of_absent (htidy : s.Tidy) (h : s.Absent script) :
    s.clearScript script = ⟨s, [], s.absentResult script⟩ := by
  unfold clearScript absentResult
  split_ifs with hempty
  · cases script.unhashable? <;> rfl
  · cases hkind : script.unhashable? with
    | some kind => rfl
    | none =>
      cases script with
      | text name => simp [h.not_contains htidy, accept]
      | _ => rfl

theorem absentResult_eq_ok_iff :
    s.absentResult script = .ok () ↔ s.scripts.isEmpty = true ∨ script.Hashable := by
  rw [absentResult, Value.Hashable]
  cases script.unhashable? with
  | none => simp
  | some kind => by_cases hempty : s.scripts.isEmpty = true <;> simp [hempty]

theorem absentResult_eq_error_iff {failure : Failure} :
    s.absentResult script = .error failure ↔
      s.scripts.isEmpty = false ∧ ∃ kind, script.unhashable? = some kind ∧
        failure = .unhashable kind := by
  rw [absentResult]
  cases script.unhashable? with
  | none => simp
  | some kind =>
    by_cases hempty : s.scripts.isEmpty = true
    · simp [hempty]
    · simp [hempty, eq_comm]

end Store

namespace Run

open Session

variable {react : Reactor} {address : Nat} {t : Session} {script : Value}

theorem on_getScript_of_absent (h : (t.heap.store address).Absent script) (key : Value) :
    (Run.call react address (.getScript script key)).on t = (.ok (.value .none), t) := by
  rw [Run.call, on_bind_ok on_heap, h.getScript_eq]
  rfl

theorem on_getScriptVars_of_absent (h : (t.heap.store address).Absent script) :
    (Run.call react address (.getScriptVars script)).on t =
      (.ok (.value Value.emptyView), t) := by
  rw [Run.call, on_bind_ok on_heap, h.scriptVars_eq]
  rfl

theorem on_clearScript_of_absent (htidy : (t.heap.store address).Tidy)
    (h : (t.heap.store address).Absent script) :
    (Run.call react address (.update (.clearScript script))).on t =
      (((t.heap.store address).absentResult script).map fun _ => .nothing, t) := by
  have hchanged : changed t address (.clearScript script) = t := by
    rw [changed, Store.outcome, Store.clearScript_of_absent htidy h, Heap.setStore_store]
  rw [on_update, on_operate, hchanged, Store.outcome, Store.clearScript_of_absent htidy h,
    on_conclude_nil]

end Run

namespace Session

variable {s : Session} {address : Nat}

/-- **Where no variables are held there is nothing to see and nothing to clear.**  Whatever is
handed in as the name of a script that holds nothing, whatever has been done since the store was
new, and whatever receivers there are: asking for a variable answers nothing, asking for all of them
answers the empty view, and clearing has no effect, nor does any of them change the session at all.
Clearing fails for one reason: there are scripts in the table in which the name would have to be
looked up, but it cannot be a key. -/
theorem absent_script (react : Reactor) (budget : Nat) {limits : Value}
    (haddress : address < s.heap.stores.size) (hnew : s.heap.store address = .new limits)
    (actions : List Action) (script : Value) :
    let t := s.after budget actions
    let store := t.heap.store address
    store.Absent script →
      (∀ key, (Run.call react address (.getScript script key)).on t = (.ok (.value .none), t)) ∧
      (Run.call react address (.getScriptVars script)).on t = (.ok (.value Value.emptyView), t) ∧
      ∃ result, (Run.call react address (.update (.clearScript script))).on t = (result, t) ∧
        (result = .ok .nothing ↔ store.scripts.isEmpty = true ∨ script.Hashable) ∧
        ∀ failure, result = .error failure ↔
          store.scripts.isEmpty = false ∧ ∃ kind, script.unhashable? = some kind ∧
            failure = .unhashable kind := by
  intro t store habsent
  -- No script without variables stands in the table, so there is no trace of the name.
  obtain ⟨-, htidy⟩ := tidy_store_after budget haddress hnew actions
  refine ⟨fun key => ?_, ?_, _, Run.on_clearScript_of_absent htidy habsent, ?_, fun failure => ?_⟩
  · exact Run.on_getScript_of_absent habsent key
  · exact Run.on_getScriptVars_of_absent habsent
  · rw [← Store.absentResult_eq_ok_iff, Except.map_eq_ok_iff]
    exact ⟨fun ⟨_, hok, _⟩ => hok, fun hok => ⟨(), hok, rfl⟩⟩
  · rw [Except.map_eq_error_iff, Store.absentResult_eq_error_iff]

/-- A list names no script.  So nothing is seen under it, but as soon as there is a script, clearing
it fails. -/
theorem absent_script_list :
    let s := withStore (Limits.default.toValue 0)
    let t := s.after 0 [.call 0 (.update (.setScript (.text "s") (.text "a") (.text "1")))]
    let list : Value := .list 1 []
    (Run.call (Run.react 0) 0 (.getScriptVars list)).on t = (.ok (.value Value.emptyView), t) ∧
      (Run.call (Run.react 0) 0 (.update (.clearScript list))).on t =
        (.error (.unhashable "list"), t) ∧
      (Run.call (Run.react 0) 0 (.update (.clearScript (.text "t")))).on t =
        (.ok .nothing, t) := by
  intro s t list
  let action : Action := .call 0 (.update (.setScript (.text "s") (.text "a") (.text "1")))
  have hscripts : (t.heap.store 0).scripts.isEmpty = false := by decide
  obtain ⟨-, hvars, result, hlist, -, hfails⟩ := absent_script (Run.react 0) 0
    (by decide : 0 < s.heap.stores.size) rfl [action] list rfl
  obtain ⟨-, -, result', htext, hclears, -⟩ := absent_script (Run.react 0) 0
    (by decide : 0 < s.heap.stores.size) rfl [action] (.text "t") rfl
  obtain rfl := (hfails (.unhashable "list")).mpr ⟨hscripts, "list", rfl, rfl⟩
  obtain rfl := hclears.mpr (.inr rfl)
  exact ⟨hvars, hlist, htext⟩

end Session

end BoundedVars
