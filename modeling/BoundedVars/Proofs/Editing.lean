import BoundedVars.Proofs.Heap
import BoundedVars.Proofs.Soundness

/-!
# Editing mappings

What is done to a mapping is an `Edit`: an entry is written, removed, or taken out, or all entries
are removed.  It is done to the entries of a dictionary, or to the own entries of a configuration,
and to nothing else in memory (`Heap.edited_of_slot`); whatever else is edited, or cannot be, stays
as it is.

What stands under a key after edits is what the last of them says that says something about the key
(`Edit.outcome`).  This is also so when edits of many mappings come in turns: each mapping is what
its own edits have made of it (`Heap.get?_after`).
-/

namespace BoundedVars

open Except

/-- Something done to a mapping. -/
inductive Edit where
  | put (key value : Value)
  | delete (key : Value)
  /-- Takes an entry out and answers its value, or `fallback` where there is none. -/
  | pop (key : Value) (fallback : Option Value)
  | clear

/-- A part of memory that edits can change: the entries of a dictionary, or the own entries of a
configuration. -/
inductive Slot where
  | dict (address : Nat)
  | config (address : Nat)
  deriving DecidableEq

/-- The slot that the edits of a value change. -/
def Value.slot? : Value → Option Slot
  | dict _ address => some (.dict address)
  | config address => some (.config address)
  | _ => Option.none

variable {entries : Entries} {key value : Value}

namespace Edit

variable {edit : Edit}

/-- What an edit says about a key, if anything: that a value stands under it, or that none does. -/
def about? (edit : Edit) (key : Value) : Option (Option Value) :=
  match edit with
  | put k value => if k == key then some (some value) else none
  | delete k | pop k _ => if k == key then some none else none
  | clear => some none

/-- What stands under a key after edits if `start` stood there before: what was written last and not
removed since. -/
def outcome (edits : List Edit) (key : Value) (start : Option Value) : Option Value :=
  (edits.reverse.findSome? (·.about? key)).getD start

theorem outcome_cons (edit : Edit) (edits : List Edit) (key : Value) (start : Option Value) :
    outcome (edit :: edits) key start = outcome edits key ((edit.about? key).getD start) := by
  rw [outcome, outcome, List.reverse_cons, List.findSome?_append, List.findSome?_singleton]
  cases edits.reverse.findSome? (·.about? key) <;> rfl

/-- The entries that an edit leaves.  What cannot be a key is not written. -/
def apply (edit : Edit) (entries : Entries) : Entries :=
  match edit with
  | put key value => if key.Hashable then entries.insert key value else entries
  | delete key | pop key _ => entries.erase key
  | clear => .empty

/-- What an edit writes is sound. -/
def Sound : Edit → Prop
  | put _ value => value.Sound
  | delete _ | pop .. | clear => True

theorem Sound.apply (hedit : edit.Sound) (hentries : entries.Sound) :
    (edit.apply entries).Sound := by
  cases edit with
  | put key value =>
    rw [Edit.apply]
    split_ifs with hkey
    · exact hentries.insert hkey hedit
    · exact hentries
  | delete key | pop key => exact hentries.erase key
  | clear => exact Entries.sound_empty

/-- **An edit does what it says**, to each key. -/
theorem get?_apply (edit : Edit) (entries : Entries) (key : Value) :
    (edit.apply entries).get? key = (edit.about? key).getD (entries.get? key) := by
  cases edit with
  | put k value =>
    rw [apply, about?]
    split_ifs with hk hsame hsame
    · rw [Table.get?_insert_ite, if_pos hsame]
      rfl
    · rw [Table.get?_insert_ite, if_neg hsame]
      rfl
    · -- What is the same key as one can be a key itself.
      exact absurd (Value.hashable_of_beq hsame) hk
    · rfl
  | delete k | pop k =>
    rw [apply, about?, Table.get?_erase_ite]
    split_ifs <;> rfl
  | clear => rfl

end Edit

/-! ### Edits of entries -/

namespace Entries

/-- What is not found is not there to be removed. -/
theorem erase_of_find?_eq_none (hfind : entries.find? key = .ok none) :
    entries.erase key = entries := by
  rw [Entries.find?] at hfind
  split at hfind
  · cases hfind
  · refine Table.erase_of_not_contains ?_
    rw [← Table.isSome_get?, Except.ok.inj hfind]
    rfl

/-- What cannot be looked up is not there to be removed. -/
theorem erase_of_find?_eq_error {failure : Failure} (hfind : entries.find? key = .error failure) :
    entries.erase key = entries := by
  refine Table.erase_of_not_contains (List.any_eq_false.mpr fun e _ hsame => ?_)
  have hkey : key.Hashable := Value.hashable_of_beq (BEq.symm hsame)
  rw [find?_of_hashable hkey] at hfind
  cases hfind

/-- What cannot be taken out is not there to be removed. -/
theorem erase_of_take? (htake : ∀ value rest, entries.take? key ≠ .ok (some value, rest)) :
    entries.erase key = entries := by
  rw [take?] at htake
  split_ifs at htake with hempty
  · rw [Table.eq_empty_of_isEmpty hempty]
    rfl
  · cases hfind : entries.find? key with
    | error failure => exact erase_of_find?_eq_error hfind
    | ok found =>
      cases found with
      | none => exact erase_of_find?_eq_none hfind
      | some value =>
        rw [hfind] at htake
        exact absurd rfl (htake value (entries.erase key))

theorem take?_eq_some {rest : Entries} (htake : entries.take? key = .ok (some value, rest)) :
    rest = entries.erase key := by
  rw [take?] at htake
  split_ifs at htake
  · cases htake
  · obtain ⟨found, -, hok⟩ := bind_eq_ok_iff.mp htake
    exact (Prod.mk.inj (Except.ok.inj hok)).2.symm

end Entries

/-! ### Edits in memory -/

namespace Heap

variable {h h' : Heap} {v : Value} {slot other : Slot}

/-- Edits a mapping. -/
def edit (h : Heap) (v : Value) : Edit → Except Failure Heap
  | .put key value => h.putItem v key value
  | .delete key => h.deleteItem v key
  | .pop key fallback => do return (← h.popItem v key fallback).2
  | .clear => h.clearItems v

/-- The memory after an edit; one that fails changes nothing. -/
def edited (h : Heap) (v : Value) (edit : Edit) : Heap :=
  match h.edit v edit with
  | .ok h' => h'
  | .error _ => h

/-- The memory after edits of mappings in turns. -/
def after (h : Heap) (turns : List (Value × Edit)) : Heap :=
  turns.foldl (fun h turn => h.edited turn.1 turn.2) h

/-- The entries in a slot. -/
def entriesIn (h : Heap) : Slot → Entries
  | .dict address => h.dict address
  | .config address => (h.config address).own

/-- The memory with other entries in a slot. -/
def setEntriesIn (h : Heap) : Slot → Entries → Heap
  | .dict address => h.setDict address
  | .config address => h.setOwn address

/-- A slot exists. -/
def Has (h : Heap) : Slot → Prop
  | .dict address => address < h.dicts.size
  | .config address => address < h.configs.size

/-! #### One slot -/

theorem setEntriesIn_entriesIn (h : Heap) (slot : Slot) :
    h.setEntriesIn slot (h.entriesIn slot) = h := by
  cases slot with
  | dict address => rw [setEntriesIn, setDict, entriesIn, Heap.dict, setIfInBounds_getD]
  | config address => rw [setEntriesIn, setOwn, entriesIn, Heap.config, setIfInBounds_getD]

theorem entriesIn_setEntriesIn_self (hslot : h.Has slot) (entries : Entries) :
    (h.setEntriesIn slot entries).entriesIn slot = entries := by
  cases slot with
  | dict address =>
    have hlt : address < h.dicts.size := hslot
    simp [setEntriesIn, setDict, entriesIn, Heap.dict, hlt]
  | config address =>
    have hlt : address < h.configs.size := hslot
    simp [setEntriesIn, setOwn, entriesIn, Heap.config, hlt]

theorem config_setOwn_of_ne {address other : Nat} (hne : other ≠ address) (entries : Entries) :
    (h.setOwn address entries).config other = h.config other := by
  simp [setOwn, Heap.config, hne.symm]

theorem entriesIn_setEntriesIn_of_ne (hne : other ≠ slot) (entries : Entries) :
    (h.setEntriesIn slot entries).entriesIn other = h.entriesIn other := by
  cases slot with
  | dict address =>
    cases other with
    | dict other =>
      have hne : address ≠ other := fun heq => hne (congrArg Slot.dict heq.symm)
      simp [setEntriesIn, setDict, entriesIn, Heap.dict, hne]
    | config other => rfl
  | config address =>
    cases other with
    | dict other => rfl
    | config other =>
      have hne : other ≠ address := fun heq => hne (congrArg Slot.config heq)
      rw [entriesIn, setEntriesIn, config_setOwn_of_ne hne, entriesIn]

theorem has_setEntriesIn (slot other : Slot) (entries : Entries) :
    (h.setEntriesIn slot entries).Has other ↔ h.Has other := by
  cases slot <;> cases other <;> simp [setEntriesIn, setDict, setOwn, Has]

theorem Sound.setEntriesIn (hsound : h.Sound) (hentries : entries.Sound) (slot : Slot) :
    (h.setEntriesIn slot entries).Sound := by
  cases slot with
  | dict address => exact hsound.setDict hentries address
  | config address => exact hsound.setOwn hentries address

theorem Sound.entriesIn (hsound : h.Sound) (slot : Slot) : (h.entriesIn slot).Sound := by
  cases slot with
  | dict address => exact hsound.dict address
  | config address => exact hsound.own address

/-! #### One edit -/

theorem writable_of_slot (hslot : v.slot? = some slot) (failure : Failure) :
    h.writable v failure = .ok (h.entriesIn slot) := by
  cases v with
  | dict | config =>
    obtain rfl := Option.some.inj hslot
    rfl
  | _ => cases hslot

theorem setWritable_of_slot (hslot : v.slot? = some slot) (entries : Entries) :
    h.setWritable v entries = h.setEntriesIn slot entries := by
  cases v with
  | dict | config =>
    obtain rfl := Option.some.inj hslot
    rfl
  | _ => cases hslot

/-- **An edit changes one slot**, by what it does to entries; if it fails it does nothing to
them. -/
theorem edited_of_slot (hslot : v.slot? = some slot) (edit : Edit) :
    h.edited v edit = h.setEntriesIn slot (edit.apply (h.entriesIn slot)) := by
  -- An edit that fails leaves the memory, and that is the memory with the same entries in the slot.
  have hsame {entries : Entries} (hentries : entries = h.entriesIn slot) :
      h = h.setEntriesIn slot entries := by rw [hentries, setEntriesIn_entriesIn]
  cases edit with
  | put key value =>
    simp only [edited, Heap.edit, putItem, writable_of_slot hslot, setWritable_of_slot hslot,
      ok_bind, Entries.put, Edit.apply]
    split_ifs with hkey
    · rw [show key.unhashable? = none from hkey]
      rfl
    · obtain ⟨kind, hkind⟩ := Option.ne_none_iff_exists'.mp hkey
      rw [hkind]
      exact hsame rfl
  | delete key =>
    simp only [edited, Heap.edit, deleteItem, writable_of_slot hslot, setWritable_of_slot hslot,
      ok_bind, Edit.apply]
    cases hfind : (h.entriesIn slot).find? key with
    | error failure => exact hsame (Entries.erase_of_find?_eq_error hfind)
    | ok found =>
      cases found with
      | some value => rfl
      | none =>
        have hkept := hsame (Entries.erase_of_find?_eq_none hfind)
        cases habsent : h.absentIn v key <;> simpa [habsent] using hkept
  | pop key fallback =>
    simp only [edited, Heap.edit, popItem, writable_of_slot hslot, setWritable_of_slot hslot,
      ok_bind, Edit.apply]
    cases htake : (h.entriesIn slot).take? key with
    | error failure => exact hsame (Entries.erase_of_take? (by simp [htake]))
    | ok taken =>
      obtain ⟨found, rest⟩ := taken
      cases found with
      | some value => rw [← Entries.take?_eq_some htake]; rfl
      | none =>
        have hnone (value : Value) (rest : Entries) :
            (h.entriesIn slot).take? key ≠ .ok (some value, rest) := by simp [htake]
        have hkept := hsame (Entries.erase_of_take? hnone)
        cases fallback with
        | some value => exact hkept
        | none => cases habsent : h.absentIn v key <;> simpa [habsent] using hkept
  | clear =>
    simp only [edited, Heap.edit, clearItems, writable_of_slot hslot, setWritable_of_slot hslot,
      ok_bind]
    rfl

/-- An edit of anything else changes nothing. -/
theorem edited_of_no_slot (hslot : v.slot? = none) (edit : Edit) : h.edited v edit = h := by
  cases v with
  | dict | config => cases hslot
  | _ => cases edit <;> rfl

theorem Sound.edited (hsound : h.Sound) {edit : Edit} (hedit : edit.Sound) (v : Value) :
    (h.edited v edit).Sound := by
  cases hslot : v.slot? with
  | none => rwa [edited_of_no_slot hslot]
  | some slot =>
    rw [edited_of_slot hslot]
    exact hsound.setEntriesIn (hedit.apply (hsound.entriesIn slot)) slot

/-! #### Edits in turns -/

/-- What is done to a slot in the course of edits. -/
def editsOf (slot : Slot) (turns : List (Value × Edit)) : List Edit :=
  (turns.filter fun turn => turn.1.slot? = some slot).map (·.2)

variable {turns : List (Value × Edit)}

/-- **Edits of sound values** leave a memory sound. -/
theorem Sound.after (hsound : h.Sound) (hturns : ∀ turn ∈ turns, turn.2.Sound) :
    (h.after turns).Sound := by
  induction turns generalizing h with
  | nil => exact hsound
  | cons turn rest ih =>
    obtain ⟨hturn, hrest⟩ := List.forall_mem_cons.mp hturns
    exact ih (hsound.edited hturn turn.1) hrest

/-- An edit is seen in the slot that it changes and in no other one. -/
theorem get?_edited (hslot : h.Has slot) (v : Value) (edit : Edit) (key : Value) :
    ((h.edited v edit).entriesIn slot).get? key =
      if v.slot? = some slot then (edit.about? key).getD ((h.entriesIn slot).get? key)
      else (h.entriesIn slot).get? key := by
  cases hv : v.slot? with
  | none => simp [edited_of_no_slot hv]
  | some other =>
    rw [edited_of_slot hv]
    by_cases heq : other = slot
    · rw [heq, if_pos rfl, entriesIn_setEntriesIn_self hslot, Edit.get?_apply]
    · rw [if_neg fun h => heq (Option.some.inj h), entriesIn_setEntriesIn_of_ne (Ne.symm heq)]

theorem Has.edited (hslot : h.Has slot) (v : Value) (edit : Edit) : (h.edited v edit).Has slot := by
  cases hv : v.slot? with
  | none => rwa [edited_of_no_slot hv]
  | some other =>
    rw [edited_of_slot hv, has_setEntriesIn]
    exact hslot

/-- **What stands under a key** after edits in turns is what the edits of the one mapping have made
of what stood there before, whatever was done to others. -/
theorem get?_after (hslot : h.Has slot) (turns : List (Value × Edit)) (key : Value) :
    ((h.after turns).entriesIn slot).get? key =
      Edit.outcome (editsOf slot turns) key ((h.entriesIn slot).get? key) := by
  induction turns generalizing h with
  | nil => rfl
  | cons turn rest ih =>
    -- The rest starts from what the first turn has left under the key.
    have hrest := ih (hslot.edited turn.1 turn.2)
    rw [get?_edited hslot] at hrest
    rw [after, List.foldl_cons, ← after, hrest, editsOf, editsOf, List.filter_cons]
    by_cases hturn : turn.1.slot? = some slot
    · rw [if_pos hturn, if_pos (decide_eq_true hturn), List.map_cons, Edit.outcome_cons]
    · rw [if_neg hturn, if_neg (by simpa using hturn)]

end Heap

end BoundedVars
