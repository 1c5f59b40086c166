import BoundedVars.Context
import BoundedVars.View
import BoundedVars.Proofs.Except
import Mathlib.Tactic.SplitIfs

/-!
# The stores of a heap

Replacing and making a store change that one only.  Dictionaries, configurations and contexts are
changed without touching the stores, nor do views change when they are (`Heap.Spared`).
-/

namespace BoundedVars.Heap

variable {h h' : Heap} {v key value found : Value}

/-! ### One store -/

section Stores

variable {address other : Nat} {store : Store}

@[simp] theorem size_setStore : (h.setStore address store).stores.size = h.stores.size :=
  Array.size_setIfInBounds

theorem setIfInBounds_getD {α : Type} (xs : Array α) (i : Nat) (fallback : α) :
    xs.setIfInBounds i (xs.getD i fallback) = xs := by
  refine Array.ext Array.size_setIfInBounds fun j _ hj => ?_
  rw [Array.getElem_setIfInBounds hj]
  split_ifs with heq
  · subst heq
    simp [hj]
  · rfl

theorem setStore_store (h : Heap) (address : Nat) :
    h.setStore address (h.store address) = h := by
  rw [setStore, Heap.store, setIfInBounds_getD]

theorem setStore_setStore (h : Heap) (address : Nat) (first second : Store) :
    (h.setStore address first).setStore address second = h.setStore address second := by
  rw [setStore, setStore, Array.setIfInBounds_setIfInBounds, setStore]

theorem store_setStore_self (haddress : address < h.stores.size) :
    (h.setStore address store).store address = store := by
  simp [Heap.store, setStore, haddress]

theorem store_setStore_of_ne (hne : other ≠ address) :
    (h.setStore address store).store other = h.store other := by
  simp [Heap.store, setStore, hne.symm]

@[simp] theorem size_newStore : (h.newStore store).2.stores.size = h.stores.size + 1 :=
  Array.size_push store

theorem store_newStore_of_lt (haddress : address < h.stores.size) :
    (h.newStore store).2.store address = h.store address := by
  simp [Heap.store, newStore, Array.getElem?_push, Nat.ne_of_lt haddress]

end Stores

/-! ### What spares stores and views -/

/-- A heap with the same stores, in which the same views were replaced. -/
structure Spared (h h' : Heap) : Prop where
  stores : h'.stores = h.stores
  replaced : h'.replaced = h.replaced

theorem spared_setWritable (entries : Entries) : Spared h (h.setWritable v entries) := by
  cases v <;> exact ⟨rfl, rfl⟩

/-! ### Mappings -/

theorem spared_putItem (hok : h.putItem v key value = .ok h') : Spared h h' := by
  unfold putItem at hok
  obtain ⟨entries, -, hok⟩ := Except.bind_eq_ok_iff.mp hok
  obtain ⟨entries', -, hok⟩ := Except.bind_eq_ok_iff.mp hok
  obtain rfl := Except.ok.inj hok
  exact spared_setWritable entries'

theorem spared_deleteItem (hok : h.deleteItem v key = .ok h') : Spared h h' := by
  unfold deleteItem at hok
  obtain ⟨entries, -, hok⟩ := Except.bind_eq_ok_iff.mp hok
  obtain ⟨found, -, hok⟩ := Except.bind_eq_ok_iff.mp hok
  cases found with
  | some _ =>
    obtain rfl := Except.ok.inj hok
    exact spared_setWritable _
  | none =>
    obtain ⟨failure, -, hok⟩ := Except.bind_eq_ok_iff.mp hok
    cases hok

theorem spared_popItem {fallback : Option Value}
    (hok : h.popItem v key fallback = .ok (found, h')) : Spared h h' := by
  unfold popItem at hok
  obtain ⟨entries, -, hok⟩ := Except.bind_eq_ok_iff.mp hok
  obtain ⟨⟨taken, rest⟩, -, hok⟩ := Except.bind_eq_ok_iff.mp hok
  cases taken with
  | some _ =>
    obtain ⟨-, rfl⟩ := Prod.mk.inj (Except.ok.inj hok)
    exact spared_setWritable _
  | none =>
    cases fallback with
    | some _ =>
      obtain ⟨-, rfl⟩ := Prod.mk.inj (Except.ok.inj hok)
      exact ⟨rfl, rfl⟩
    | none =>
      obtain ⟨failure, -, hok⟩ := Except.bind_eq_ok_iff.mp hok
      cases hok

theorem spared_clearItems (hok : h.clearItems v = .ok h') : Spared h h' := by
  unfold clearItems at hok
  obtain ⟨entries, -, hok⟩ := Except.bind_eq_ok_iff.mp hok
  obtain rfl := Except.ok.inj hok
  exact spared_setWritable _

theorem spared_layers {layers : List Value} (hok : h.layers v = .ok (layers, h')) :
    Spared h h' := by
  cases v with
  | config address =>
    obtain ⟨-, rfl⟩ := Prod.mk.inj (Except.ok.inj hok)
    exact ⟨rfl, rfl⟩
  | _ => cases hok

/-! ### Contexts and views -/

theorem spared_setAttribute (hok : h.setAttribute v key value = .ok h') : Spared h h' := by
  cases v with
  | context address =>
    obtain ⟨attributes, -, hok⟩ := Except.bind_eq_ok_iff.mp hok
    obtain rfl := Except.ok.inj hok
    exact ⟨rfl, rfl⟩
  | _ => cases hok

theorem spared_removeAttribute (hok : h.removeAttribute v key = .ok (found, h')) :
    Spared h h' := by
  cases v with
  | context address =>
    obtain ⟨⟨taken, rest⟩, -, hok⟩ := Except.bind_eq_ok_iff.mp hok
    obtain ⟨-, rfl⟩ := Prod.mk.inj (Except.ok.inj hok)
    exact ⟨rfl, rfl⟩
  | _ => cases hok

/-- Only the entries of a view can be set. -/
theorem setViewAttribute_eq_ok (hok : h.setViewAttribute v key value = .ok h') :
    ∃ serial, h' = h.replaceView serial value := by
  unfold setViewAttribute at hok
  split at hok
  · split_ifs at hok
    exact ⟨_, (Except.ok.inj hok).symm⟩
  · cases hok
  · cases hok

end BoundedVars.Heap
