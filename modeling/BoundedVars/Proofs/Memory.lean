import BoundedVars.Context
import BoundedVars.Proofs.Store.Soundness

/-!
# Memories in which everything is sound

Besides the entries of mappings a memory holds the attributes of contexts and what is in stores.  If
these are sound, too (`Heap.AllSound`), then so is whatever a context answers
(`Heap.AllSound.lookup`), and whatever is made, written or removed leaves everything sound.
-/

namespace BoundedVars.Heap

open Except

variable {h h' : Heap} {v key value found : Value} {entries : Entries}

/-- A memory in which everything is sound. -/
structure AllSound (h : Heap) : Prop extends Heap.Sound h where
  context : ∀ address, (h.context address).Sound
  store : ∀ address, (h.store address).Sound

theorem allSound_empty : AllSound .empty where
  toSound := sound_empty
  context _ := Entries.sound_empty
  store _ := Store.sound_new (Limits.hashable_toValue _ 0).sound

namespace AllSound

/-! ### Mappings -/

theorem rewritten (hsound : h.AllSound) (hrewritten : h.Rewritten h') : h'.AllSound := by
  have hmappings := hrewritten.sound hsound.toSound
  obtain ⟨v, entries, -, rfl⟩ := hrewritten
  refine { hmappings with context := fun address => ?_, store := fun address => ?_ }
  · cases v <;> exact hsound.context address
  · cases v <;> exact hsound.store address

theorem newDict (hsound : h.AllSound) (hentries : entries.Sound) (attributed : Bool) :
    (h.newDict attributed entries).2.AllSound :=
  { hsound.toSound.newDict hentries attributed with
    context := hsound.context, store := hsound.store }

theorem newConfig (hsound : h.AllSound) {sources : List Value}
    (hsources : ∀ source ∈ sources, source.Sound) : (h.newConfig sources).2.AllSound :=
  { hsound.toSound.newConfig hsources with context := hsound.context, store := hsound.store }

theorem replaceView (hsound : h.AllSound) (hvalue : value.Sound) (serial : Nat) :
    (h.replaceView serial value).AllSound :=
  { hsound.toSound.replaceView hvalue serial with
    context := hsound.context, store := hsound.store }

/-- The layers of a configuration are sound, also those made for the purpose. -/
theorem layers (hsound : h.AllSound) {layers : List Value} (hok : h.layers v = .ok (layers, h')) :
    (∀ layer ∈ layers, layer.Sound) ∧ h'.AllSound := by
  cases v with
  | config address =>
    obtain ⟨rfl, rfl⟩ := Prod.mk.inj (Except.ok.inj hok)
    refine ⟨?_, (hsound.newDict (hsound.own address) false).newDict Entries.sound_defaults false⟩
    refine List.forall_mem_cons.mpr ⟨Value.sound_dict false _, ?_⟩
    refine List.forall_mem_append.mpr ⟨hsound.sources address, ?_⟩
    exact List.forall_mem_singleton.mpr (Value.sound_dict false _)
  | _ => cases hok

/-! ### Contexts -/

theorem newContext (hsound : h.AllSound) (hentries : entries.Sound) :
    (h.newContext entries).2.AllSound :=
  { hsound with context := forall_getD_push hsound.context hentries }

theorem setContext (hsound : h.AllSound) (hentries : entries.Sound) (address : Nat) :
    (h.setContext address entries).AllSound :=
  { hsound with context := forall_getD_setIfInBounds hsound.context hentries address }

theorem getAttribute (hsound : h.AllSound) (hok : h.getAttribute v key = .ok found) :
    found.Sound := by
  cases v with
  | context address =>
    obtain ⟨kept, hkept, hok⟩ := bind_eq_ok_iff.mp hok
    obtain rfl := Except.ok.inj hok
    cases kept with
    | none => exact Value.sound_none
    | some kept => exact (hsound.context address).find? hkept
  | dict attributed address =>
    cases attributed with
    | true =>
      obtain rfl := Except.ok.inj hok
      exact (Value.hashable_text _).sound
    | false => cases hok
  | _ => cases hok

/-- **What a context answers** is sound. -/
theorem lookup (hsound : h.AllSound) (hv : v.Sound) (hok : h.lookup v key = .ok found) :
    found.Sound := by
  unfold Heap.lookup at hok
  split_ifs at hok
  · exact hsound.get hv Value.sound_none hok
  · cases v with
    | context | raising => exact hsound.getAttribute hok
    | _ => cases hok

theorem setAttribute (hsound : h.AllSound) (hvalue : value.Sound)
    (hok : h.setAttribute v key value = .ok h') : h'.AllSound := by
  cases v with
  | context address =>
    obtain ⟨attributes, hattributes, hok⟩ := bind_eq_ok_iff.mp hok
    obtain rfl := Except.ok.inj hok
    exact hsound.setContext ((hsound.context address).put hvalue hattributes) address
  | _ => cases hok

theorem removeAttribute (hsound : h.AllSound) (hok : h.removeAttribute v key = .ok (found, h')) :
    found.Sound ∧ h'.AllSound := by
  cases v with
  | context address =>
    obtain ⟨⟨taken, rest⟩, htaken, hok⟩ := bind_eq_ok_iff.mp hok
    obtain ⟨rfl, rfl⟩ := Prod.mk.inj (Except.ok.inj hok)
    obtain ⟨hfound, hrest⟩ := (hsound.context address).take? htaken
    refine ⟨?_, hsound.setContext hrest address⟩
    cases taken with
    | none => exact Value.sound_none
    | some value => exact hfound value rfl
  | _ => cases hok

/-! ### Stores -/

theorem newStore (hsound : h.AllSound) {store : Store} (hstore : store.Sound) :
    (h.newStore store).2.AllSound :=
  { hsound with store := forall_getD_push hsound.store hstore }

/-- **An operation on a store** leaves everything sound. -/
theorem operate (hsound : h.AllSound) (address : Nat) (operation : Store.Operation) :
    (h.setStore address ((h.store address).outcome operation).store).AllSound := by
  have hstore := (Store.step_outcome _ operation).sound (hsound.store address)
  exact { hsound with store := forall_getD_setIfInBounds hsound.store hstore address }

end AllSound

end BoundedVars.Heap
