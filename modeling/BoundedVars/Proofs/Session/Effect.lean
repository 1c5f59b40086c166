import BoundedVars.Proofs.Session.Mirroring
import BoundedVars.Proofs.Session.Sequential
import BoundedVars.Proofs.Store.Effect

/-!
# Who takes note of changes hears of what changes a store

A receiver that takes note of all announcements hears of a call at least once if some variable of
the store is not what it was, and only then, but for one exception: a call that writes to a variable
what it holds already is heard of, although nothing has changed (`heard_iff_differs_or_rewrites`).
Of a call that does not clear everything nobody hears twice.
-/

namespace BoundedVars

/-- A delivery to a receiver. -/
def TraceEntry.isTo (receiver : String) : TraceEntry → Bool
  | .delivered other .. => other == receiver
  | _ => false

/-- A call writes to a variable what it holds already. -/
def Call.Rewrites (h : Heap) (store : Store) (call : Call) : Prop :=
  ∃ operation, call.operation? h = some operation ∧ store.Rewrites operation

/-- No context makes a call clear everything. -/
theorem Call.eq_clear_of_operation? {h : Heap} {call : Call}
    (hoperation : call.operation? h = some .clear) : call = .update .clear := by
  rcases operation?_cases hoperation with hcall | ⟨_, _, _, _, -, -, hclear⟩
  · exact hcall
  · cases hclear

namespace Run

variable {receivers : List String} {receiver : String} {address : Nat} {sender : Datum}

/-- A receiver is told of a change once, and of a message not at all. -/
theorem length_told_to (hn : receivers.Nodup) (hmem : receiver ∈ receivers) (notice : Notice) :
    ((told receivers address sender notice).filter (·.isTo receiver)).length =
      notice.change?.toList.length := by
  cases notice with
  | log => rfl
  | change change =>
    have hto : ((fun entry : TraceEntry => entry.isTo receiver) ∘
        (change.announcement address).entry sender change.shownFields) = (· == receiver) := rfl
    rw [told, List.filter_map, List.length_map, hto, ← List.count_eq_length_filter]
    exact List.count_eq_one_of_mem hn hmem

/-- A receiver is told of every change once. -/
theorem length_told_changes (hn : receivers.Nodup) (hmem : receiver ∈ receivers) (o : Outcome) :
    ((o.notices.flatMap (told receivers address sender)).filter (·.isTo receiver)).length =
      o.changes.length := by
  rw [Outcome.changes]
  induction o.notices with
  | nil => rfl
  | cons notice rest ih =>
    rw [List.flatMap_cons, List.filter_append, List.length_append, length_told_to hn hmem, ih,
      List.filterMap_cons]
    cases notice.change? with
    | none => exact Nat.zero_add _
    | some change => exact Nat.add_comm _ _

end Run

namespace Session

variable {receivers : List String} {receiver : String} {s t : Session} {address : Nat}

/-- **Receivers hear of what an operation announces**, and of nothing else. -/
theorem heard_of_operation {react : Reactor} (hreact : react .record = pure ())
    (hn : receivers.Nodup) (hmem : receiver ∈ receivers) (hears : HearsChanges receivers t)
    (hquiet : Log.records t.level .debug = false) (haddress : address < t.heap.stores.size)
    {call : Call} {operation : Store.Operation}
    (hoperation : call.operation? t.heap = some operation) :
    ∃ entries, ((Run.call react address call).on t).2.deliveries = t.deliveries ++ entries ∧
      (entries.filter (·.isTo receiver)).length =
        ((t.heap.store address).outcome operation).changes.length ∧
      ((Run.call react address call).on t).2.heap.store address =
        ((t.heap.store address).outcome operation).store := by
  obtain ⟨sender, hsender⟩ := (Run.changed t address operation).exists_datum_store address
  obtain ⟨result, u, hoperate, hnoticed⟩ :=
    Run.on_operate_of_quiet hreact operation hears hsender hquiet
  rw [Run.on_call_of_operation react address hoperation, hoperate]
  refine ⟨_, hnoticed.deliveries_eq, Run.length_told_changes hn hmem _, ?_⟩
  rw [hnoticed.heap, Run.changed, Heap.store_setStore_self haddress]

/-- The state of a store that was new is one in which all scripts in the table have variables. -/
theorem tidy_store_after (budget : Nat) {limits : Value} (haddress : address < s.heap.stores.size)
    (hnew : s.heap.store address = .new limits) (actions : List Action) :
    address < (s.after budget actions).heap.stores.size ∧
      ((s.after budget actions).heap.store address).Tidy := by
  have hoperated : Operated s (s.after budget actions) := rel_after budget s actions
  obtain ⟨hpresent, operations, hstore⟩ := hoperated address haddress
  rw [hstore, hnew]
  exact ⟨hpresent, Store.tidy_after limits operations⟩

/-- **A receiver hears of a call exactly when the call has changed the store**, or else has written
to a variable what it held already, which changes nothing: whatever has been done in the session
since the store was new, if the receiver takes note of all changes and the log does not record every
change.  It hears of the call once at most, unless everything is cleared. -/
theorem heard_iff_differs_or_rewrites (budget : Nat) {limits : Value}
    (haddress : address < s.heap.stores.size) (hnew : s.heap.store address = .new limits)
    (actions : List Action) (hn : receivers.Nodup) (hmem : receiver ∈ receivers)
    (hears : HearsChanges receivers (s.after budget actions))
    (hquiet : Log.records (s.after budget actions).level .debug = false) (call : Call) :
    let t := s.after budget actions
    let u := ((Run.call (Run.react budget) address call).on t).2
    ∃ entries, u.deliveries = t.deliveries ++ entries ∧
      ((∃ entry ∈ entries, entry.isTo receiver) ↔
        (t.heap.store address).Differs (u.heap.store address) ∨
          call.Rewrites t.heap (t.heap.store address)) ∧
      (call.Rewrites t.heap (t.heap.store address) →
        ¬(t.heap.store address).Differs (u.heap.store address)) ∧
      (call ≠ .update .clear → (entries.filter (·.isTo receiver)).length ≤ 1) := by
  intro t u
  obtain ⟨hpresent, htidy⟩ := tidy_store_after budget haddress hnew actions
  cases hoperation : call.operation? t.heap with
  | none =>
    -- Nothing is announced and nothing happens to the store.
    obtain ⟨result, fresh, hcall, -⟩ :=
      Run.on_call_of_no_operation (Run.react budget) address hoperation
    have hu : u = { t with fresh := fresh } := congrArg Prod.snd hcall
    have hrewrites : ¬call.Rewrites t.heap (t.heap.store address) := by
      rintro ⟨operation, hsome, -⟩
      rw [hoperation] at hsome
      cases hsome
    rw [hu]
    refine ⟨[], (List.append_nil _).symm, iff_of_false nofun ?_, fun h => absurd h hrewrites,
      fun _ => Nat.zero_le 1⟩
    exact fun h => h.elim (Store.not_differs_self _) hrewrites
  | some operation =>
    obtain ⟨entries, hdeliveries, hlength, hstore⟩ := heard_of_operation (Run.react_record budget)
      hn hmem hears hquiet hpresent hoperation
    -- The receiver hears as often as there are changes.
    have hheard : (∃ entry ∈ entries, entry.isTo receiver) ↔
        ((t.heap.store address).outcome operation).changes ≠ [] := by
      rw [← List.length_pos_iff, ← hlength, List.length_filter_pos_iff]
    have hrewrites : call.Rewrites t.heap (t.heap.store address) ↔
        (t.heap.store address).Rewrites operation := by
      rw [Call.Rewrites, hoperation]
      simp
    rw [hrewrites, hstore]
    refine ⟨entries, hdeliveries, hheard.trans (Store.changes_ne_nil_iff htidy operation),
      Store.not_differs_of_rewrites, fun hclear => ?_⟩
    rw [hlength]
    refine Store.length_changes_le_one ?_
    rintro rfl
    exact hclear (Call.eq_clear_of_operation? hoperation)

/-- Writing the same once more is heard of, although the store stays as it is. -/
theorem heard_of_rewriting_watched :
    let call : Call := .update (.setGlobal (.text "key") (.text "value"))
    let t := watched.after 0 ([(0, call)].map fun c => .call c.1 c.2)
    let u := ((Run.call (Run.react 0) 0 call).on t).2
    ¬(t.heap.store 0).Differs (u.heap.store 0) ∧
      ∃ entries, u.deliveries = t.deliveries ++ entries ∧
        ∃ entry ∈ entries, entry.isTo "receiver" := by
  intro call
  dsimp only
  have hpresent : 0 < watched.heap.stores.size := by decide
  have hmirrored := mirrored_watched.after (List.nodup_singleton "receiver") List.mem_cons_self 0
    [(0, call)]
  obtain ⟨entries, hdeliveries, hheard, hsame, -⟩ := heard_iff_differs_or_rewrites 0 hpresent rfl
    _ (List.nodup_singleton "receiver") List.mem_cons_self hmirrored.hears hmirrored.quiet call
  suffices h : call.Rewrites _ _ from
    ⟨hsame h, entries, hdeliveries, hheard.mpr (Or.inr h)⟩
  exact ⟨_, rfl, .global, "key", "value", rfl, rfl, rfl⟩

end Session

end BoundedVars
