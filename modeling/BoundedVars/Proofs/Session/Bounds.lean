import BoundedVars.Proofs.Session.Development
import BoundedVars.Proofs.Store.WellFormed

/-!
# Stores stay within their limits, whatever a session does

The states of a store in a session are those it gets to through operations: `Session.Operated` says
so of all stores at once, and it is a development, so it holds from any session to any later one.
With that the invariant of the operations (`Store.wellFormed_after`) becomes one of sessions.
-/

namespace BoundedVars.Session

variable {s t u : Session}

/-- Every store is still there and has gone through operations, and nothing else has happened to
it. -/
def Operated (s t : Session) : Prop :=
  ∀ address < s.heap.stores.size, address < t.heap.stores.size ∧
    ∃ operations, t.heap.store address = (s.heap.store address).after operations

theorem Operated.trans (hst : Operated s t) (htu : Operated t u) : Operated s u := by
  intro address haddress
  obtain ⟨ht, first, hfirst⟩ := hst address haddress
  obtain ⟨hu, second, hsecond⟩ := htu address ht
  exact ⟨hu, first ++ second, by rw [hsecond, hfirst, Store.after_append]⟩

theorem Operated.of_stores_eq (h : t.heap.stores = s.heap.stores) : Operated s t := by
  intro address haddress
  refine ⟨h ▸ haddress, [], ?_⟩
  rw [Heap.store, h]
  rfl

theorem operated_operate (s : Session) (address : Nat) (operation : Store.Operation) :
    Operated s { s with
      heap := s.heap.setStore address ((s.heap.store address).outcome operation).store } := by
  intro other hother
  refine ⟨by rw [Heap.size_setStore]; exact hother, ?_⟩
  by_cases h : other = address
  · subst h
    exact ⟨[operation], Heap.store_setStore_self hother⟩
  · exact ⟨[], Heap.store_setStore_of_ne h⟩

theorem operated_create (s : Session) (limits : Value) :
    Operated s { s with heap := (s.heap.newStore (.new limits)).2 } := by
  intro address haddress
  exact ⟨by rw [Heap.size_newStore]; omega, [], Heap.store_newStore_of_lt haddress⟩

instance : StoreDevelopment Operated where
  trans := Operated.trans
  of_stores_eq := Operated.of_stores_eq
  operate := operated_operate
  create := operated_create

/-- Operations on a new store with integer limits keep them and stay within them. -/
theorem Operated.wellFormed {s t : Session} {address : Nat} {l : Limits} {serial : Nat}
    (h : Operated s t) (haddress : address < s.heap.stores.size)
    (hnew : s.heap.store address = .new (l.toValue serial)) :
    (t.heap.store address).limits = l.toValue serial ∧ (t.heap.store address).WellFormed l := by
  obtain ⟨-, operations, hstore⟩ := h address haddress
  rw [hstore, hnew, Store.limits_after]
  exact ⟨rfl, Store.wellFormed_after rfl Store.wellFormed_new operations⟩

/-- **A store with integer limits stays within them**, and keeps them, whatever is done in the
session, at any level of the log, and whatever receivers do while events are delivered. -/
theorem wellFormed_store_after (budget : Nat) (s : Session) {address : Nat} {l : Limits}
    {serial : Nat} (haddress : address < s.heap.stores.size)
    (hnew : s.heap.store address = .new (l.toValue serial)) (actions : List Action) :
    ((s.after budget actions).heap.store address).limits = l.toValue serial ∧
      ((s.after budget actions).heap.store address).WellFormed l :=
  (rel_after budget s actions : Operated s (s.after budget actions)).wellFormed haddress hnew

/-- The first variable of a tier is written, the second is one too many, and of a script there can
be none at all. -/
theorem wellFormed_store_after_writing :
    let limits : Limits := ⟨1, -1, 3, 5⟩
    let s := withStore (limits.toValue 0)
    let t := s.after 0 [.call 0 (.update (.setGlobal (.text "key") (.text "value"))),
      .call 0 (.update (.setGlobal (.text "two") (.text "2"))),
      .call 0 (.update (.setScript (.text "script") (.text "key") (.text "1")))]
    (t.heap.store 0).globals.entries = [("key", "value")] ∧
      (t.heap.store 0).scriptNames = [] ∧
      (t.heap.store 0).limits = limits.toValue 0 ∧ (t.heap.store 0).WellFormed limits :=
  ⟨by decide, by decide,
    wellFormed_store_after 0 (withStore (Limits.toValue ⟨1, -1, 3, 5⟩ 0)) (by decide) rfl _⟩

end BoundedVars.Session
