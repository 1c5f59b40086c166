import BoundedVars.Proofs.Key
import BoundedVars.Proofs.Merging
import BoundedVars.Proofs.Table
import Mathlib.Data.Finset.Sum
import Mathlib.Order.Monotone.Basic

/-!
# Mappings in layers

Whatever kind of mapping is asked for a key, in the end it is dictionaries, views and the defaults
that are consulted, one after another.  A mapping is *layered* if that comes to an end
(`Heap.Layered`): a replaced view shows a layered mapping, and the sources of a configuration are
such mappings.  The steps that this takes are no more than there are configurations and replaced
views (`Heap.LayeredWithin.reach`), since otherwise one of them would lead back to itself.

The tables that a layered mapping consults are its *layers* (`Heap.tables`).  What it says about a
key is what the first of them says that has the key, and only what cannot be a key is a failure
(`Heap.get_of_layered`).
-/

namespace BoundedVars.Heap

open Except

variable {h : Heap} {v key fallback : Value} {depth other : Nat}

/-! ### How deep the layers go -/

/-- A mapping in layers: from it, views and configurations lead to dictionaries and views with
entries of their own in at most `depth` steps. -/
inductive LayeredWithin (h : Heap) : Nat → Value → Prop
  | dict (depth : Nat) (attributed : Bool) (address : Nat) :
    LayeredWithin h depth (.dict attributed address)
  | view (depth : Nat) {serial : Nat} (entries : List (Value × Value))
    (hkept : h.replacement? serial = none) : LayeredWithin h depth (.view serial entries)
  | replaced {depth serial : Nat} {value : Value} (entries : List (Value × Value))
    (hreplaced : h.replacement? serial = some value) (hvalue : LayeredWithin h depth value) :
    LayeredWithin h (depth + 1) (.view serial entries)
  | config {depth address : Nat} (haddress : address < h.configs.size)
    (hsources : ∀ source ∈ (h.config address).sources, LayeredWithin h depth source) :
    LayeredWithin h (depth + 1) (.config address)

/-- A mapping in layers, however deep they go. -/
def Layered (h : Heap) (v : Value) : Prop :=
  ∃ depth, h.LayeredWithin depth v

theorem LayeredWithin.mono (hv : h.LayeredWithin depth v) (hle : depth ≤ other) :
    h.LayeredWithin other v := by
  induction hv generalizing other with
  | dict => exact .dict ..
  | view _ entries hkept => exact .view _ entries hkept
  | replaced entries hreplaced _ ih =>
    obtain ⟨other, rfl⟩ := Nat.exists_eq_add_of_le' hle
    exact .replaced entries hreplaced (ih (Nat.le_add_left ..))
  | config haddress _ ih =>
    obtain ⟨other, rfl⟩ := Nat.exists_eq_add_of_le' hle
    exact .config haddress fun source hsource => ih source hsource (Nat.le_add_left ..)

/-- A configuration, or a view whose entries were replaced. -/
def station : Nat ⊕ Nat → Value
  | .inl address => .config address
  | .inr serial => .view serial []

/-- All stations that there are. -/
def stations (h : Heap) : Finset (Nat ⊕ Nat) :=
  (Finset.range h.configs.size).disjSum h.replaced.keys.toFinset

theorem card_stations_le (h : Heap) : h.stations.card ≤ h.reach := by
  have hkeys : h.replaced.keys.toFinset.card ≤ h.replaced.size :=
    (List.toFinset_card_le _).trans_eq (Table.length_keys _)
  rw [stations, Finset.card_disjSum, Finset.card_range]
  exact Nat.add_le_add_left hkeys _

open Classical in
/-- The stations from which it is at most `depth` steps. -/
noncomputable def stationsWithin (h : Heap) (depth : Nat) : Finset (Nat ⊕ Nat) :=
  h.stations.filter fun place => h.LayeredWithin depth (station place)

theorem mem_stationsWithin {place : Nat ⊕ Nat} :
    place ∈ h.stationsWithin depth ↔
      place ∈ h.stations ∧ h.LayeredWithin depth (station place) := by
  simp only [stationsWithin, Finset.mem_filter]

theorem card_stationsWithin_le (h : Heap) (depth : Nat) :
    (h.stationsWithin depth).card ≤ h.reach := by
  have hsubset : h.stationsWithin depth ⊆ h.stations :=
    fun _ hplace => (mem_stationsWithin.mp hplace).1
  exact (Finset.card_le_card hsubset).trans (card_stations_le h)

theorem stationsWithin_mono : Monotone h.stationsWithin := by
  intro depth other hle place hplace
  rw [mem_stationsWithin] at hplace ⊢
  exact ⟨hplace.1, hplace.2.mono hle⟩

/-- If no station is one step further away, nothing is. -/
theorem LayeredWithin.of_stations_eq
    (hstations : h.stationsWithin (depth + 1) = h.stationsWithin depth)
    (hv : h.LayeredWithin (depth + 1) v) : h.LayeredWithin depth v := by
  cases hv with
  | dict => exact .dict ..
  | view _ entries hkept => exact .view _ entries hkept
  | @replaced _ serial value entries hreplaced hvalue =>
    have hkey : serial ∈ h.replaced.keys :=
      Table.mem_keys_of_mem (Table.mem_entries_of_get? hreplaced)
    have hmem : .inr serial ∈ h.stationsWithin (depth + 1) := by
      rw [mem_stationsWithin, stations, Finset.inr_mem_disjSum, List.mem_toFinset]
      exact ⟨hkey, .replaced [] hreplaced hvalue⟩
    rw [hstations, mem_stationsWithin] at hmem
    -- The view shows the same whatever entries it has.
    cases hmem.2 with
    | view _ _ hkept =>
      rw [hkept] at hreplaced
      cases hreplaced
    | replaced _ hreplaced' hvalue' => exact .replaced entries hreplaced' hvalue'
  | @config _ address haddress hsources =>
    have hmem : .inl address ∈ h.stationsWithin (depth + 1) := by
      rw [mem_stationsWithin, stations, Finset.inl_mem_disjSum, Finset.mem_range]
      exact ⟨haddress, .config haddress hsources⟩
    rw [hstations, mem_stationsWithin] at hmem
    exact hmem.2

/-- If there are no stations one step further away, nothing is two steps further away. -/
theorem LayeredWithin.pred_of_stations_eq
    (hstations : h.stationsWithin (depth + 1) = h.stationsWithin depth)
    (hv : h.LayeredWithin (depth + 2) v) : h.LayeredWithin (depth + 1) v := by
  cases hv with
  | dict => exact .dict ..
  | view _ entries hkept => exact .view _ entries hkept
  | replaced entries hreplaced hvalue =>
    exact .replaced entries hreplaced (hvalue.of_stations_eq hstations)
  | config haddress hsources =>
    exact .config haddress fun source hsource =>
      (hsources source hsource).of_stations_eq hstations

theorem stationsWithin_eq_of_eq
    (hstations : h.stationsWithin (depth + 1) = h.stationsWithin depth) :
    h.stationsWithin (depth + 2) = h.stationsWithin (depth + 1) := by
  refine Finset.Subset.antisymm (fun place hplace => ?_) (stationsWithin_mono (Nat.le_succ _))
  rw [mem_stationsWithin] at hplace ⊢
  exact ⟨hplace.1, hplace.2.pred_of_stations_eq hstations⟩

/-- **There are no more steps than configurations and replaced views**: the number of stations grows
with the number of steps until it stays the same. -/
theorem LayeredWithin.reach (hv : h.LayeredWithin depth v) : h.LayeredWithin h.reach v := by
  have hcard : Monotone fun depth => (h.stationsWithin depth).card :=
    fun _ _ hle => Finset.card_le_card (stationsWithin_mono hle)
  have hsame {depth : Nat}
      (heq : (h.stationsWithin depth).card = (h.stationsWithin (depth + 1)).card) :
      h.stationsWithin (depth + 1) = h.stationsWithin depth :=
    (Finset.eq_of_subset_of_card_le (stationsWithin_mono (Nat.le_succ _)) heq.symm.le).symm
  have hstable {depth : Nat} (hle : h.reach ≤ depth) :
      (h.stationsWithin depth).card = (h.stationsWithin h.reach).card :=
    Nat.stabilises_of_monotone hcard (card_stationsWithin_le h)
      (fun _ heq => congrArg Finset.card (stationsWithin_eq_of_eq (hsame heq)).symm) hle
  rcases Nat.le_total depth h.reach with hle | hle
  · exact hv.mono hle
  · -- Step by step the depth comes down.
    induction depth, hle using Nat.le_induction with
    | base => exact hv
    | succ depth hle ih =>
      refine ih (hv.of_stations_eq (hsame ?_))
      rw [hstable hle, hstable (hle.trans (Nat.le_succ _))]

/-! ### The layers -/

/-- The tables that a layered mapping consults, the first one first. -/
def tablesWithin (h : Heap) : Nat → Value → List Entries
  | depth, v =>
    match v with
    | .dict _ address => [h.dict address]
    | .view serial entries =>
      match h.replacement? serial with
      | none => [⟨entries⟩]
      | some value =>
        match depth with
        | 0 => []
        | depth + 1 => tablesWithin h depth value
    | .config address =>
      match depth with
      | 0 => []
      | depth + 1 =>
        (h.config address).own :: (h.config address).sources.flatMap (tablesWithin h depth)
          ++ [⟨Setting.defaults⟩]
    | _ => []

/-- The layers of a mapping. -/
def tables (h : Heap) (v : Value) : List Entries :=
  h.tablesWithin h.reach v

theorem tablesWithin_dict (depth : Nat) (attributed : Bool) (address : Nat) :
    h.tablesWithin depth (.dict attributed address) = [h.dict address] := by
  cases depth <;> rfl

theorem tablesWithin_view (depth : Nat) {serial : Nat} (entries : List (Value × Value))
    (hkept : h.replacement? serial = none) :
    h.tablesWithin depth (.view serial entries) = [⟨entries⟩] := by
  cases depth <;> simp [tablesWithin, hkept]

theorem LayeredWithin.tablesWithin_eq (hv : h.LayeredWithin depth v) (hle : depth ≤ other) :
    h.tablesWithin other v = h.tablesWithin depth v := by
  induction hv generalizing other with
  | dict => rw [tablesWithin_dict, tablesWithin_dict]
  | view depth entries hkept => rw [tablesWithin_view _ _ hkept, tablesWithin_view _ _ hkept]
  | @replaced depth serial value entries hreplaced _ ih =>
    obtain ⟨other, rfl⟩ := Nat.exists_eq_add_of_le' hle
    have hvalue : h.tablesWithin (other + depth) value = h.tablesWithin depth value :=
      ih (Nat.le_add_left ..)
    simpa [tablesWithin, hreplaced] using hvalue
  | @config depth address haddress _ ih =>
    -- A greater depth leaves more for the sources as well.
    obtain ⟨other, rfl⟩ := Nat.exists_eq_add_of_le' hle
    have hsources : (h.config address).sources.flatMap (h.tablesWithin (other + depth)) =
        (h.config address).sources.flatMap (h.tablesWithin depth) :=
      List.flatMap_congr fun source hsource => ih source hsource (Nat.le_add_left ..)
    simpa [tablesWithin] using hsources

theorem tables_dict (h : Heap) (attributed : Bool) (address : Nat) :
    h.tables (.dict attributed address) = [h.dict address] :=
  tablesWithin_dict h.reach attributed address

/-- The layers of a configuration: its own entries, those of its sources, and the defaults. -/
theorem tables_config {address : Nat} (hv : h.Layered (.config address)) :
    h.tables (.config address) =
      (h.config address).own :: (h.config address).sources.flatMap h.tables
        ++ [⟨Setting.defaults⟩] := by
  obtain ⟨depth, hv⟩ := hv
  -- The reach of the memory leaves a configuration one less for its sources, and that is enough.
  obtain ⟨depth, hreach, hsources⟩ : ∃ depth, h.reach = depth + 1 ∧
      ∀ source ∈ (h.config address).sources, h.LayeredWithin depth source := by
    generalize hreach : h.reach = reach at *
    cases hreach ▸ hv.reach with
    | config _ hsources => exact ⟨_, rfl, hsources⟩
  have htables : (h.config address).sources.flatMap h.tables =
      (h.config address).sources.flatMap (h.tablesWithin depth) :=
    List.flatMap_congr fun source hsource => by
      rw [tables, hreach, (hsources source hsource).tablesWithin_eq (Nat.le_succ depth)]
  rw [htables, tables, hreach, tablesWithin]

/-! ### Looking a key up -/

/-- What is found when tables are consulted one after another; what cannot be a key is a failure. -/
def consult (tables : List Entries) (key : Value) : Except Failure (Option Value) :=
  match key.unhashable? with
  | some kind => .error (.unhashable kind)
  | none => .ok (tables.findSome? (·.get? key))

theorem consult_of_hashable (hkey : key.Hashable) (tables : List Entries) :
    consult tables key = .ok (tables.findSome? (·.get? key)) := by
  rw [consult, show key.unhashable? = none from hkey]

theorem consult_of_unhashable {kind : String} (hkey : key.unhashable? = some kind)
    (tables : List Entries) : consult tables key = .error (.unhashable kind) := by
  rw [consult, hkey]

theorem entries_find?_eq (entries : Entries) (key : Value) :
    entries.find? key = consult [entries] key := by
  rw [Entries.find?, consult]
  cases key.unhashable? <;> simp

theorem findSome?_flatMap {α β γ : Type} (xs : List α) (f : α → List β) (g : β → Option γ) :
    (xs.flatMap f).findSome? g = xs.findSome? fun x => (f x).findSome? g := by
  induction xs with
  | nil => rfl
  | cons x xs ih =>
    rw [List.flatMap_cons, List.findSome?_append, List.findSome?_cons, ih]
    cases (f x).findSome? g <;> rfl

theorem isSome_findSome? {α β : Type} (xs : List α) (f : α → Option β) :
    (xs.findSome? f).isSome = xs.any fun x => (f x).isSome := by
  rw [Bool.eq_iff_iff, List.findSome?_isSome_iff, List.any_eq_true]

/-- **A layered mapping is consulted layer by layer.** -/
theorem LayeredWithin.findWithin_eq (hv : h.LayeredWithin depth v) (key : Value) :
    h.findWithin depth v key = consult (h.tablesWithin depth v) key := by
  induction hv with
  | dict depth attributed address =>
    rw [tablesWithin_dict, ← entries_find?_eq]
    cases depth <;> rfl
  | view depth entries hkept =>
    rw [tablesWithin_view _ _ hkept, ← entries_find?_eq]
    cases depth <;> simp [findWithin, Value.sequence?, hkept]
  | replaced entries hreplaced _ ih =>
    simpa [findWithin, tablesWithin, Value.sequence?, hreplaced] using ih
  | @config depth address haddress _ ih =>
    rw [findWithin, tablesWithin]
    simp only [Value.sequence?, entries_find?_eq]
    -- A key that cannot be one fails in the first table already, and there always is one.
    cases hkey : key.unhashable? with
    | some kind => simp only [consult_of_unhashable hkey, error_bind]
    | none =>
      have hsources : (h.config address).sources.findSomeM? (h.findWithin depth · key) =
          .ok ((h.config address).sources.findSome? fun source =>
            (h.tablesWithin depth source).findSome? (·.get? key)) :=
        findSomeM?_eq_ok fun source hsource =>
          (ih source hsource).trans (consult_of_hashable hkey _)
      simp only [consult_of_hashable hkey, hsources, ok_bind, List.cons_append,
        List.findSome?_cons, List.findSome?_append, findSome?_flatMap, List.findSome?_nil]
      -- What is found first in the own entries or in a source ends the search.
      cases (h.config address).own.get? key with
      | some found => rfl
      | none =>
        cases (h.config address).sources.findSome? fun source =>
            (h.tablesWithin depth source).findSome? (·.get? key) with
        | some found => rfl
        | none => rfl

theorem LayeredWithin.containsWithin_eq (hv : h.LayeredWithin depth v) (key : Value) :
    h.containsWithin depth v key =
      (consult (h.tablesWithin depth v) key).map Option.isSome := by
  induction hv with
  | dict depth attributed address =>
    -- Dictionaries and views contain a key if they find something under it.
    have hfind := (LayeredWithin.dict (h := h) depth attributed address).findWithin_eq key
    rw [← hfind]
    cases depth <;> rfl
  | view depth entries hkept =>
    have hfind := (LayeredWithin.view depth entries hkept).findWithin_eq key
    rw [← hfind]
    cases depth <;> rfl
  | replaced entries hreplaced hvalue _ =>
    have hfind := (LayeredWithin.replaced entries hreplaced hvalue).findWithin_eq key
    rw [← hfind]
    rfl
  | @config depth address haddress _ ih =>
    rw [containsWithin, tablesWithin]
    simp only [entries_find?_eq]
    cases hkey : key.unhashable? with
    | some kind => simp only [consult_of_unhashable hkey, error_bind, Except.map]
    | none =>
      -- Sources are asked whether they contain the key, and not what stands under it.
      have hsources : (h.config address).sources.anyM (h.containsWithin depth · key) =
          .ok ((h.config address).sources.any fun source =>
            ((h.tablesWithin depth source).findSome? (·.get? key)).isSome) :=
        anyM_eq_ok fun source hsource => by
          rw [ih source hsource, consult_of_hashable hkey]
          rfl
      simp only [consult_of_hashable hkey, hsources, ok_bind, List.cons_append,
        List.findSome?_cons, List.findSome?_append, findSome?_flatMap, List.findSome?_nil,
        ← isSome_findSome?]
      cases (h.config address).own.get? key with
      | some found => rfl
      | none =>
        cases (h.config address).sources.findSome? fun source =>
            (h.tablesWithin depth source).findSome? (·.get? key) with
        | some found => rfl
        | none => cases Table.get? _ key <;> rfl

/-! ### What a mapping says -/

/-- **What a layered mapping says about a key** is what the first of its layers says that has the
key. -/
theorem find?_of_layered (hv : h.Layered v) (key : Value) :
    h.find? v key = consult (h.tables v) key := by
  obtain ⟨depth, hv⟩ := hv
  exact hv.reach.findWithin_eq key

theorem contains_of_layered (hv : h.Layered v) (key : Value) :
    h.contains v key = (consult (h.tables v) key).map Option.isSome := by
  obtain ⟨depth, hv⟩ := hv
  exact hv.reach.containsWithin_eq key

/-- Asking a layered mapping for an entry, with something to fall back on, consults its layers. -/
theorem get_of_layered (hv : h.Layered v) (key fallback : Value) :
    h.get v key fallback = (consult (h.tables v) key).map (·.getD fallback) := by
  have hfind := find?_of_layered hv key
  have hcontains := contains_of_layered hv key
  obtain ⟨depth, hv⟩ := hv
  cases hv with
  | dict | view | replaced =>
    rw [get, hfind]
    cases consult (h.tables _) key <;> rfl
  | config =>
    rw [get, hcontains, item, hfind]
    rcases consult (h.tables _) key with failure | (none | found) <;> rfl

/-- The value of a layered mapping under a key. -/
def found? (h : Heap) (v key : Value) : Option Value :=
  (h.tables v).findSome? (·.get? key)

theorem get_of_hashable (hv : h.Layered v) (hkey : key.Hashable) (fallback : Value) :
    h.get v key fallback = .ok ((h.found? v key).getD fallback) := by
  rw [get_of_layered hv, consult_of_hashable hkey]
  rfl

theorem isMapping_of_layered (hv : h.Layered v) : v.isMapping = true := by
  obtain ⟨depth, hv⟩ := hv
  cases hv <;> rfl

end BoundedVars.Heap
