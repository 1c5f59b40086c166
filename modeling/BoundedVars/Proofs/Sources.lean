import BoundedVars.Proofs.Editing
import BoundedVars.Proofs.LayerKeys

/-!
# Configurations and what they were made from

A configuration is written to in its own entries only, so whatever is done to it, none of its
sources is read otherwise than before (`Heap.readsAsBefore_setOwn`).  The sources for their part are
live: they can be written to, and the configuration shows what they have now.

Taken together, what stands under a key of a configuration is decided by what was done to it and by
what its sources have at the moment (`Heap.found?_config`), and going through it gives just the keys
under which something stands (`Heap.Presents`).  Main result: `Heap.Sound.sparesSources`.
-/

namespace BoundedVars.Heap

open Except

variable {h h' base : Heap} {v key : Value} {depth address : Nat} {sources : List Value}
  {entries : Entries}

/-! ### What stays when mappings are edited -/

/-- A later memory: what configurations there were are still made from the same values, and the same
views are replaced. -/
structure KeepsSources (h h' : Heap) : Prop where
  size_le : h.configs.size ≤ h'.configs.size
  sources_eq : ∀ address, address < h.configs.size →
    (h'.config address).sources = (h.config address).sources
  replaced_eq : h'.replaced = h.replaced

namespace KeepsSources

theorem refl (h : Heap) : h.KeepsSources h :=
  ⟨Nat.le_refl _, fun _ _ => rfl, rfl⟩

theorem trans (hfirst : base.KeepsSources h) (hsecond : h.KeepsSources h') :
    base.KeepsSources h' where
  size_le := hfirst.size_le.trans hsecond.size_le
  sources_eq address haddress :=
    (hsecond.sources_eq address (haddress.trans_le hfirst.size_le)).trans
      (hfirst.sources_eq address haddress)
  replaced_eq := hsecond.replaced_eq.trans hfirst.replaced_eq

theorem replacement? (hkeeps : h.KeepsSources h') (serial : Nat) :
    h'.replacement? serial = h.replacement? serial := by
  rw [Heap.replacement?, Heap.replacement?, hkeeps.replaced_eq]

end KeepsSources

theorem keepsSources_setOwn (h : Heap) (address : Nat) (entries : Entries) :
    h.KeepsSources (h.setOwn address entries) := by
  refine ⟨by simp [setOwn], fun other hother => ?_, rfl⟩
  by_cases heq : other = address
  · subst heq
    simp [setOwn, Heap.config, hother]
  · rw [config_setOwn_of_ne heq]

theorem keepsSources_edited (h : Heap) (v : Value) (edit : Edit) :
    h.KeepsSources (h.edited v edit) := by
  cases hslot : v.slot? with
  | none =>
    rw [edited_of_no_slot hslot]
    exact .refl h
  | some slot =>
    rw [edited_of_slot hslot]
    cases slot with
    | dict address => exact ⟨Nat.le_refl _, fun _ _ => rfl, rfl⟩
    | config address => exact keepsSources_setOwn h address _

theorem keepsSources_after (h : Heap) (turns : List (Value × Edit)) :
    h.KeepsSources (h.after turns) := by
  induction turns generalizing h with
  | nil => exact .refl h
  | cons turn rest ih => exact (keepsSources_edited h turn.1 turn.2).trans (ih _)

theorem config_newConfig (h : Heap) (sources : List Value) (other : Nat) :
    (h.newConfig sources).2.config other =
      if other = h.configs.size then ⟨.empty, sources⟩ else h.config other := by
  simp only [Heap.config, Heap.newConfig, Array.getD_eq_getD_getElem?, Array.getElem?_push]
  split_ifs <;> rfl

theorem keepsSources_newConfig (h : Heap) (sources : List Value) :
    h.KeepsSources (h.newConfig sources).2 := by
  refine ⟨by simp [newConfig], fun address haddress => ?_, rfl⟩
  rw [config_newConfig, if_neg haddress.ne]

/-- Layers stay layers. -/
theorem LayeredWithin.of_keepsSources (hv : h.LayeredWithin depth v) (hkeeps : h.KeepsSources h') :
    h'.LayeredWithin depth v := by
  induction hv with
  | dict => exact .dict ..
  | view _ entries hkept => exact .view _ entries ((hkeeps.replacement? _).trans hkept)
  | replaced entries hreplaced _ ih =>
    exact .replaced entries ((hkeeps.replacement? _).trans hreplaced) ih
  | config haddress _ ih =>
    refine .config (haddress.trans_le hkeeps.size_le) fun source hsource => ih source ?_
    rwa [← hkeeps.sources_eq _ haddress]

theorem Layered.of_keepsSources (hv : h.Layered v) (hkeeps : h.KeepsSources h') : h'.Layered v := by
  obtain ⟨depth, hv⟩ := hv
  exact ⟨depth, hv.of_keepsSources hkeeps⟩

/-- Layers are there. -/
theorem Layered.address_lt (hv : h.Layered (.config address)) : address < h.configs.size := by
  obtain ⟨depth, hv⟩ := hv
  cases hv with
  | config haddress _ => exact haddress

/-- **A configuration made from layered mappings** is one again, and can be a source in turn. -/
theorem layered_newConfig (hsources : ∀ source ∈ sources, h.Layered source) :
    (h.newConfig sources).2.Layered (h.newConfig sources).1 := by
  have hkeeps := keepsSources_newConfig h sources
  refine ⟨h.reach + 1, .config (by simp [newConfig]) fun source hsource => ?_⟩
  rw [config_newConfig, if_pos rfl] at hsource
  obtain ⟨depth, hlayered⟩ := hsources source hsource
  exact hlayered.reach.of_keepsSources hkeeps

/-! ### What reads as before -/

/-- A mapping reads as before: it has the same keys in the same order, and the same under each. -/
structure ReadsAsBefore (h h' : Heap) (v : Value) : Prop where
  find? : ∀ key, h'.find? v key = h.find? v key
  contains : ∀ key, h'.contains v key = h.contains v key
  elements : h'.elements v = h.elements v
  length : h'.length v = h.length v

/-- Nothing to which a mapping leads was changed. -/
inductive Unchanged (h h' : Heap) : Value → Prop
  | dict (attributed : Bool) {address : Nat} (hdict : h'.dict address = h.dict address) :
    Unchanged h h' (.dict attributed address)
  | view {serial : Nat} (items : List (Value × Value)) (hkept : h.replacement? serial = none)
    (hkept' : h'.replacement? serial = none) : Unchanged h h' (.view serial items)
  | replaced {serial : Nat} {value : Value} (items : List (Value × Value))
    (hreplaced : h.replacement? serial = some value)
    (hreplaced' : h'.replacement? serial = some value) (hvalue : Unchanged h h' value) :
    Unchanged h h' (.view serial items)
  | config {address : Nat} (hconfig : h'.config address = h.config address)
    (hsources : ∀ source ∈ (h.config address).sources, Unchanged h h' source) :
    Unchanged h h' (.config address)

namespace Unchanged

theorem tablesWithin_eq (hv : h.Unchanged h' v) (reach : Nat) :
    h'.tablesWithin reach v = h.tablesWithin reach v := by
  induction hv generalizing reach with
  | dict attributed hdict => rw [tablesWithin_dict, tablesWithin_dict, hdict]
  | view items hkept hkept' => rw [tablesWithin_view _ _ hkept, tablesWithin_view _ _ hkept']
  | replaced items hreplaced hreplaced' _ ih =>
    cases reach with
    | zero => simp only [tablesWithin, hreplaced, hreplaced']
    | succ reach => simp only [tablesWithin, hreplaced, hreplaced', ih]
  | config hconfig _ ih =>
    cases reach with
    | zero => rfl
    | succ reach =>
      rw [tablesWithin, tablesWithin, hconfig,
        List.flatMap_congr fun source hsource => ih source hsource reach]

theorem elementsWithin_eq (hv : h.Unchanged h' v) (reach : Nat) :
    h'.elementsWithin reach v = h.elementsWithin reach v := by
  induction hv generalizing reach with
  | dict attributed hdict => rw [elementsWithin_dict, elementsWithin_dict, hdict]
  | view items hkept hkept' => rw [elementsWithin_view _ _ hkept, elementsWithin_view _ _ hkept']
  | replaced items hreplaced hreplaced' _ ih =>
    cases reach with
    | zero => simp only [elementsWithin, Value.sequence?, hreplaced, hreplaced']
    | succ reach => simp only [elementsWithin, Value.sequence?, hreplaced, hreplaced', ih]
  | config hconfig _ ih =>
    cases reach with
    | zero => rfl
    | succ reach =>
      simp only [elementsWithin, Value.sequence?, hconfig]
      rw [foldlM_congr fun source hsource keys => by
        rw [ih source (List.mem_reverse.mp hsource) reach]]

theorem lengthWithin_eq (hv : h.Unchanged h' v) (reach : Nat) :
    h'.lengthWithin reach v = h.lengthWithin reach v := by
  induction hv generalizing reach with
  | dict attributed hdict => cases reach <;> simp only [lengthWithin, Value.sequence?, hdict]
  | view items hkept hkept' =>
    cases reach <;> simp only [lengthWithin, Value.sequence?, hkept, hkept']
  | replaced items hreplaced hreplaced' _ ih =>
    cases reach with
    | zero => simp only [lengthWithin, Value.sequence?, hreplaced, hreplaced']
    | succ reach => simp only [lengthWithin, Value.sequence?, hreplaced, hreplaced', ih]
  | config hconfig hsources =>
    simp only [lengthWithin, Value.sequence?, hconfig]
    rw [foldlM_congr fun source hsource keys => by
      rw [(hsources source hsource).elementsWithin_eq (reach - 1)]]

/-- **Where nothing was changed, all reads as before.** -/
theorem readsAsBefore (hunchanged : h.Unchanged h' v) (hv : h.Layered v) (hv' : h'.Layered v)
    (hreach : h'.reach = h.reach) : h.ReadsAsBefore h' v := by
  -- The circle of mappings that may lead to each other is as wide as before.
  have htables : h'.tables v = h.tables v := by
    rw [tables, tables, hreach, hunchanged.tablesWithin_eq]
  refine ⟨fun key => ?_, fun key => ?_, ?_, ?_⟩
  · rw [find?_of_layered hv, find?_of_layered hv', htables]
  · rw [contains_of_layered hv, contains_of_layered hv', htables]
  · rw [elements, elements, hreach, hunchanged.elementsWithin_eq]
  · rw [length, length, hreach, hunchanged.lengthWithin_eq]

end Unchanged

/-- What was there before a configuration does not lead to it. -/
theorem LayeredWithin.unchanged_setOwn (hv : base.LayeredWithin depth v)
    (hkeeps : base.KeepsSources h) (haddress : base.configs.size ≤ address) (entries : Entries) :
    h.Unchanged (h.setOwn address entries) v := by
  induction hv with
  | dict _ attributed => exact .dict attributed rfl
  | view _ items hkept =>
    have hkept := (hkeeps.replacement? _).trans hkept
    exact .view items hkept hkept
  | replaced items hreplaced _ ih =>
    have hreplaced := (hkeeps.replacement? _).trans hreplaced
    exact .replaced items hreplaced hreplaced ih
  | config hother _ ih =>
    -- A configuration on the way is older, so it is another one.
    refine .config (config_setOwn_of_ne (hother.trans_le haddress).ne entries) ?_
    rwa [hkeeps.sources_eq _ hother]

/-- **Writing to a configuration** leaves what was there before it as it was. -/
theorem readsAsBefore_setOwn (hv : base.Layered v) (hkeeps : base.KeepsSources h)
    (haddress : base.configs.size ≤ address) (entries : Entries) :
    h.ReadsAsBefore (h.setOwn address entries) v := by
  have hlayered := hv.of_keepsSources hkeeps
  have hreach : (h.setOwn address entries).reach = h.reach := by simp [reach, setOwn]
  obtain ⟨depth, hv⟩ := hv
  exact (hv.unchanged_setOwn hkeeps haddress entries).readsAsBefore hlayered
    (hlayered.of_keepsSources (keepsSources_setOwn h address entries)) hreach

/-! ### What a mapping presents -/

/-- A mapping presents what stands under each key.  Asked for a key it answers what stands there, or
fails because the key is absent.  Going through it gives each key under which something stands once,
and its length is their number. -/
structure Presents (h : Heap) (v : Value) (shown : Value → Option Value) : Prop where
  item : ∀ key value, key.Hashable → shown key = some value → h.item v key = .ok value
  absent : ∀ key, key.Hashable → shown key = none → h.item v key = .error (.absent key)
  unhashable : ∀ key kind, key.unhashable? = some kind → h.item v key = .error (.unhashable kind)
  contains : ∀ key, key.Hashable → h.contains v key = .ok (shown key).isSome
  keys : ∃ keys, h.elements v = .ok keys ∧ h.length v = .ok keys.length ∧
    (∀ k ∈ keys, k.Hashable) ∧
      ∀ key, key.Hashable → keys.countP (· == key) = if (shown key).isSome then 1 else 0

/-- **A layered mapping presents** what the first of its layers has. -/
theorem Sound.presents_of_layered (hsound : h.Sound) (hv : h.Layered v) (hvalue : v.Sound) :
    h.Presents v (h.found? v) := by
  have hfind {key : Value} (hkey : key.Hashable) : h.find? v key = .ok (h.found? v key) := by
    rw [find?_of_layered hv, consult_of_hashable hkey, found?]
  have hcontains {key : Value} (hkey : key.Hashable) :
      h.contains v key = .ok (h.found? v key).isSome := by
    rw [contains_of_layered hv, consult_of_hashable hkey]
    rfl
  refine ⟨fun key value hkey hshown => ?_, fun key hkey hshown => ?_, fun key kind hkey => ?_,
    fun key hkey => hcontains hkey, ?_⟩
  · rw [Heap.item, hfind hkey, hshown]
    rfl
  · rw [Heap.item, hfind hkey, hshown]
    rfl
  · rw [Heap.item, find?_of_layered hv, consult_of_unhashable hkey]
    rfl
  · -- What is listed is a proper table of keys, in which each key is counted once.
    obtain ⟨keys, hproper, helements, hlength, hholds⟩ := hsound.listsKeys_of_layered hv hvalue
    refine ⟨keys.keys, helements, ?_, hashable_of_proper hproper, fun key hkey => ?_⟩
    · rw [hlength, Table.length_keys]
    · rw [hproper.countP_keys, ← Except.ok.inj ((hholds key hkey).symm.trans (hcontains hkey))]

/-! ### What stands under a key -/

/-- What stands under a key behind the own entries of a configuration: what the first of its sources
that has the key has there, or else the default. -/
def behind? (h : Heap) (sources : List Value) (key : Value) : Option Value :=
  (sources.findSome? (h.found? · key)).or (Table.get? ⟨Setting.defaults⟩ key)

/-- In a configuration it is what was written to it, or else what stands behind that. -/
theorem found?_config (hv : h.Layered (.config address)) (key : Value) :
    h.found? (.config address) key =
      ((h.config address).own.get? key).or (h.behind? (h.config address).sources key) := by
  have hsources : ((h.config address).sources.flatMap h.tables).findSome? (·.get? key) =
      (h.config address).sources.findSome? (h.found? · key) := findSome?_flatMap ..
  rw [behind?, found?, tables_config hv, List.cons_append, List.findSome?_cons,
    List.findSome?_append, hsources, List.findSome?_singleton]
  cases (h.config address).own.get? key <;> rfl

variable {turns : List (Value × Edit)}

/-- After edits it is in a dictionary what those of the dictionary have left there. -/
theorem found?_dict_after (haddress : address < h.dicts.size) (attributed : Bool)
    (turns : List (Value × Edit)) (key : Value) :
    (h.after turns).found? (.dict attributed address) key =
      Edit.outcome (editsOf (.dict address) turns) key ((h.dict address).get? key) := by
  have hslot : h.Has (.dict address) := haddress
  rw [found?, tables_dict, List.findSome?_singleton]
  exact get?_after hslot turns key

/-- In a configuration those of the configuration come before what its sources have by then. -/
theorem found?_config_after (hv : h.Layered (.config address)) (turns : List (Value × Edit))
    (key : Value) :
    (h.after turns).found? (.config address) key =
      (Edit.outcome (editsOf (.config address) turns) key ((h.config address).own.get? key)).or
        ((h.after turns).behind? (h.config address).sources key) := by
  have hkeeps := keepsSources_after h turns
  have hslot : h.Has (.config address) := hv.address_lt
  have hown : ((h.after turns).config address).own.get? key =
      Edit.outcome (editsOf (.config address) turns) key ((h.config address).own.get? key) :=
    get?_after hslot turns key
  rw [found?_config (hv.of_keepsSources hkeeps), hown, hkeeps.sources_eq address hv.address_lt]

/-- **A configuration presents**, after edits, what these have made of its own entries, and behind
them what its sources have by then. -/
theorem Sound.presents_config_after (hsound : h.Sound) (hv : h.Layered (.config address))
    (hturns : ∀ turn ∈ turns, turn.2.Sound) :
    (h.after turns).Presents (.config address) fun key =>
      (Edit.outcome (editsOf (.config address) turns) key ((h.config address).own.get? key)).or
        ((h.after turns).behind? (h.config address).sources key) := by
  have hlayered := hv.of_keepsSources (keepsSources_after h turns)
  have hpresents := (hsound.after hturns).presents_of_layered hlayered
    (Value.sound_of_parts_eq_nil nofun rfl)
  have hshown : (h.after turns).found? (.config address) = _ :=
    funext fun key => found?_config_after hv turns key
  rwa [hshown] at hpresents

/-- What becomes of a configuration and of what it was made from, when the memory `h` in which it
was made has turned into `t`, the edits in turns lying in between. -/
structure SparesSources (h : Heap) (sources : List Value) (turns : List (Value × Edit)) (t : Heap) :
    Prop where
  /-- What is done to the configuration next changes its own entries at most, and each source reads
  as before. -/
  edits : ∀ edit, ∃ own,
    t.edited (.config h.configs.size) edit = t.setOwn h.configs.size own ∧
      ∀ source ∈ sources, t.ReadsAsBefore (t.edited (.config h.configs.size) edit) source
  /-- Under each key the configuration presents what was written to it last and not removed since,
  or else what the first source that has the key has there by now, or else the default. -/
  made : t.Presents (.config h.configs.size) fun key =>
    (Edit.outcome (editsOf (.config h.configs.size) turns) key none).or (t.behind? sources key)
  /-- The sources present what stands in them. -/
  sources : ∀ source ∈ sources, t.Presents source (t.found? source)
  /-- In a dictionary stands what the edits of the dictionary have made of its entries. -/
  dicts : ∀ attributed address key, address < h.dicts.size →
    t.found? (.dict attributed address) key =
      Edit.outcome (editsOf (.dict address) turns) key ((h.dict address).get? key)
  /-- For an older configuration the law is the same as for the new one. -/
  configs : ∀ address key, h.Layered (.config address) →
    t.found? (.config address) key =
      (Edit.outcome (editsOf (.config address) turns) key ((h.config address).own.get? key)).or
        (t.behind? (h.config address).sources key)

/-- **Writing to a configuration never touches what it was made from.**  A configuration is made
from dictionaries and other configurations, each of them as often as one likes.  Then it, its
sources and whatever else there is are edited in turns, any number of them, and some of the edits
may fail. -/
theorem Sound.sparesSources (hsound : h.Sound)
    (hsources : ∀ source ∈ sources, h.Layered source ∧ source.Sound)
    (turns : List (Value × Edit)) (hturns : ∀ turn ∈ turns, turn.2.Sound) :
    h.SparesSources sources turns ((h.newConfig sources).2.after turns) := by
  have hmade := keepsSources_newConfig h sources
  have hkeeps := hmade.trans (keepsSources_after (h.newConfig sources).2 turns)
  have hnew : (h.newConfig sources).2.config h.configs.size = ⟨.empty, sources⟩ := by
    rw [config_newConfig, if_pos rfl]
  have hconf : (h.newConfig sources).2.Layered (.config h.configs.size) :=
    layered_newConfig fun source hsource => (hsources source hsource).1
  have hmadeSound : (h.newConfig sources).2.Sound :=
    hsound.newConfig fun source hsource => (hsources source hsource).2
  refine ⟨fun edit => ?_, ?_, fun source hsource => ?_, fun attributed address key haddress => ?_,
    fun address key hv => ?_⟩
  · -- The sources are older than the configuration, so they do not lead to it.
    have hslot : (Value.config h.configs.size).slot? = some (.config h.configs.size) := rfl
    refine ⟨_, edited_of_slot hslot edit, fun source hsource => ?_⟩
    rw [edited_of_slot hslot]
    exact readsAsBefore_setOwn (hsources source hsource).1 hkeeps (Nat.le_refl _) _
  · have hlaw := hmadeSound.presents_config_after hconf hturns
    rwa [hnew] at hlaw
  · obtain ⟨hlayered, hvalue⟩ := hsources source hsource
    exact (hmadeSound.after hturns).presents_of_layered (hlayered.of_keepsSources hkeeps) hvalue
  · exact found?_dict_after (h := (h.newConfig sources).2) haddress attributed turns key
  · have hold : (h.newConfig sources).2.config address = h.config address := by
      rw [config_newConfig, if_neg hv.address_lt.ne]
    rw [← hold]
    exact found?_config_after (hv.of_keepsSources hmade) turns key

end BoundedVars.Heap
