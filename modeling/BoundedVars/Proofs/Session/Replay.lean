import BoundedVars.Proofs.Session.Mirroring
import BoundedVars.Proofs.Session.Sequential
import BoundedVars.Proofs.Store.Replay

/-!
# A snapshot can be written to a new store

Whatever has been done in a session, the snapshot of a store with integer limits says all about its
variables: written item by item to a new store with the same limits, it makes of it a store with the
same snapshot, the same names of scripts and the same summary, and no call fails on the way
(`snapshot_replays`).
-/

namespace BoundedVars

theorem Call.operations_map_update (h : Heap) (operations : List Store.Operation) :
    Call.operations h (operations.map .update) = operations := by
  rw [Call.operations, List.filterMap_map]
  exact List.filterMap_some

namespace Session

variable {s t u : Session} {address fresh : Nat} {l : Limits} {serial number : Nat}

/-- A session after operations were asked of a store, one after another. -/
def afterUpdates (budget : Nat) (s : Session) (address : Nat)
    (operations : List Store.Operation) : Session :=
  s.after budget ((operations.map Call.update).map (.call address))

/-- **Operations that all succeed by themselves do so in a session**, where the log does not record
every change and receivers only take note. -/
theorem afterUpdates_of_completes (budget : Nat) (hnote : s.TakesNote)
    (hquiet : Log.records s.level .debug = false) (haddress : address < s.heap.stores.size)
    {store : Store} {operations : List Store.Operation}
    (hcompletes : (s.heap.store address).Completes operations store) :
    (s.afterUpdates budget address operations).heap.store address = store ∧
      ∀ before operation rest, operations = before ++ operation :: rest →
        ((Run.call (Run.react budget) address (.update operation)).on
          (s.afterUpdates budget address before)).1 = .ok .nothing := by
  -- Whichever of the operations have been asked for, the store holds what they make of it.
  have hcarried (some : List Store.Operation) :
      Carried address some s (s.afterUpdates budget address some) := by
    have hafter := carried_after budget hnote haddress (some.map Call.update)
    rw [Call.operations_map_update] at hafter
    exact hafter
  refine ⟨?_, ?_⟩
  · rw [(hcarried operations).store haddress, hcompletes.after_eq]
  · rintro before operation rest rfl
    have hbefore := hcarried before
    have hquiet' : Log.records (s.afterUpdates budget address before).level .debug = false :=
      hbefore.level ▸ hquiet
    rw [Run.on_call_fst_of_takesNote (Run.react_record budget) hbefore.takesNote address
        (Call.operation?_update _ operation), hbefore.store haddress,
      ((Store.step_outcome _ operation).conduct.resultAt_eq_ok_iff hquiet').mpr
        hcompletes.result_eq]
    rfl

/-- **A snapshot can be written to a new store** with the same limits: no call fails, and then the
new store hands out the same snapshot, with keys and scripts in the same order, the same names of
scripts and the same summary.  The store may have come to be what it is in whatever way. -/
theorem snapshot_replays (budget : Nat) (haddress : address < s.heap.stores.size)
    (hnew : s.heap.store address = .new (l.toValue serial)) (actions : List Action)
    (hfresh : fresh < (s.after budget actions).heap.stores.size)
    (hempty : (s.after budget actions).heap.store fresh = .new (l.toValue number))
    (hnote : (s.after budget actions).TakesNote)
    (hquiet : Log.records (s.after budget actions).level .debug = false) :
    let t := s.after budget actions
    let ask (call : Call) (place : Nat) (s : Session) :=
      (Run.call (Run.react budget) place call).on s
    let snapshot := (t.heap.store address).snapshot t.fresh
    let u := (ask .snapshot address t).2
    let v := u.afterUpdates budget fresh snapshot.replay
    (ask .snapshot address t).1 = .ok (.value snapshot) ∧
      (∀ before operation rest, snapshot.replay = before ++ operation :: rest →
        (ask (.update operation) fresh (u.afterUpdates budget fresh before)).1 = .ok .nothing) ∧
      (ask .snapshot fresh v).1 = .ok (.value ((t.heap.store address).snapshot v.fresh)) ∧
      (ask .scriptNames fresh v).1 = (ask .scriptNames address t).1 ∧
      (ask .summary fresh v).1 = (ask .summary address t).1 := by
  intro t ask snapshot u v
  have hoperated : Operated s t := rel_after budget s actions
  obtain ⟨-, hwellFormed⟩ := hoperated.wellFormed haddress hnew
  have hcompletes := Store.completes_replay hwellFormed number t.fresh
  rw [← hempty] at hcompletes
  -- Taking the snapshot has used up numbers of views and done nothing else.
  obtain ⟨hstore, hsucceed⟩ := afterUpdates_of_completes (s := u) budget hnote hquiet hfresh
    hcompletes
  refine ⟨rfl, hsucceed, ?_, ?_, ?_⟩
  · -- Both stores are the same, so they answer the same but for the numbers of views.
    have hsnapshot : (ask .snapshot fresh v).1 =
        .ok (.value ((v.heap.store fresh).snapshot v.fresh)) := rfl
    rw [hsnapshot, hstore]
    rfl
  · have hnames : (ask .scriptNames fresh v).1 =
        .ok (.datum (.set ((v.heap.store fresh).scriptNames.map .text))) := rfl
    rw [hnames, hstore]
    rfl
  · have hsummary : (ask .summary fresh v).1 = .ok (.ofText (v.heap.store fresh).summary) := rfl
    rw [hsummary, hstore]
    rfl

/-- The scripts come back in the order in which they came to have variables last. -/
theorem snapshot_replays_watched :
    let set (name key : String) (value : Value) : Call :=
      .update (.setScript (.text name) (.text key) value)
    let calls := [set "b" "key" (.text "1"), set "a" "key" (.text "2"), set "b" "key" .none,
      set "b" "other" (.text "3")]
    let t := watched.after 0 (calls.map (.call 0))
    let u := ((Run.call (Run.react 0) 0 .snapshot).on t).2
    let v := u.afterUpdates 0 1 ((t.heap.store 0).snapshot t.fresh).replay
    (t.heap.store 0).scriptNames = ["a", "b"] ∧
      ((Run.call (Run.react 0) 1 .snapshot).on v).1 =
        .ok (.value ((t.heap.store 0).snapshot v.fresh)) := by
  intro set calls
  dsimp only
  have hpresent : 0 < watched.heap.stores.size := by decide
  have hcarried := carried_after 0 hearsChanges_watched.takesNote hpresent calls
  have hempty : (watched.after 0 (calls.map (.call 0))).heap.store 1 =
      .new (Limits.default.toValue 0) := by
    rw [hcarried.heap, Heap.store_setStore_of_ne Nat.one_ne_zero]
    rfl
  have hquiet : Log.records (watched.after 0 (calls.map (.call 0))).level .debug = false := by
    rw [hcarried.level]
    decide
  obtain ⟨-, -, hsnapshot, -, -⟩ := snapshot_replays 0 hpresent rfl (calls.map (.call 0))
    (hcarried.size_stores.symm ▸ (by decide : 1 < watched.heap.stores.size)) hempty
    hcarried.takesNote hquiet
  exact ⟨by decide +kernel, hsnapshot⟩

end Session

end BoundedVars
