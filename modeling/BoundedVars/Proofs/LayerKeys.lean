import BoundedVars.Proofs.Layers
import BoundedVars.Proofs.Soundness

/-!
# The keys of mappings in layers

Going through a layered mapping of a sound memory, whatever its kind, gives the keys that are in one
of its layers, each of them once.  As many there are, and these are the keys that it contains
(`Heap.Sound.keys_of_layered`).
-/

namespace BoundedVars.Heap

open Except

variable {h : Heap} {v : Value} {depth : Nat} {start : Entries} {sources : List Value}
  {elements : Value → Except Failure (List Value)} {holds : Value → Value → Bool}

/-- Values come one by one, each of them once, and they are the keys that `holds` is true of. -/
def Lists (values : Except Failure (List Value)) (holds : Value → Bool) : Prop :=
  ∃ keys : Entries, values = .ok keys.keys ∧ keys.Proper ∧ ∀ k, keys.contains k = holds k

theorem lists_keys {entries : Entries} (hentries : entries.Proper) :
    Lists (.ok entries.keys) entries.contains :=
  ⟨entries, rfl, hentries, fun _ => rfl⟩

theorem Lists.congr {values : Except Failure (List Value)} {holds holds' : Value → Bool}
    (hvalues : Lists values holds) (hholds : ∀ k, holds k = holds' k) : Lists values holds' := by
  obtain ⟨keys, heq, hkeys, hcontains⟩ := hvalues
  exact ⟨keys, heq, hkeys, fun k => (hcontains k).trans (hholds k)⟩

/-- The number of values. -/
def counted (values : Except Failure (List Value)) : Except Failure Nat := do
  return (← values).length

/-- However often values are listed, there are equally many. -/
theorem Lists.counted_eq {values values' : Except Failure (List Value)} {holds : Value → Bool}
    (hvalues : Lists values holds) (hvalues' : Lists values' holds) :
    counted values = counted values' := by
  obtain ⟨keys, rfl, hproper, hcontains⟩ := hvalues
  obtain ⟨keys', rfl, hproper', hcontains'⟩ := hvalues'
  have hsize : keys.size = keys'.size :=
    hproper.size_eq hproper' fun k => (hcontains k).trans (hcontains' k).symm
  simp only [counted, ok_bind, Table.length_keys, hsize]

/-- Further keys, but for those that are there already, are added. -/
theorem Lists.add {values : Except Failure (List Value)} {holds : Value → Bool}
    (hvalues : Lists values holds) {more : Entries} (hmore : more.Proper) :
    Lists (values >>= fun keys => distinct (keys ++ more.keys)) fun k =>
      holds k || more.contains k := by
  obtain ⟨keys, rfl, hkeys, hholds⟩ := hvalues
  have hall := List.forall_mem_append.mpr ⟨hashable_of_proper hkeys, hashable_of_proper hmore⟩
  refine ⟨asKeys (keys.keys ++ more.keys), distinct_of_hashable hall, proper_asKeys hall,
    fun k => ?_⟩
  simp only [contains_asKeys, List.any_append, ← contains_eq_any, hholds]

/-- The keys of sources are added one source after another. -/
theorem Lists.foldlM {values : List Value} {start : Value → Bool}
    (hvalues : Lists (.ok values) start)
    (hsources : ∀ source ∈ sources, Lists (elements source) (holds source)) :
    Lists (sources.foldlM (fun keys source => do distinct (keys ++ (← elements source))) values)
      fun k => start k || sources.any (holds · k) := by
  induction sources generalizing values start with
  | nil => exact hvalues.congr fun k => (Bool.or_false _).symm
  | cons source rest ih =>
    obtain ⟨⟨more, hmore, hproper, hholds⟩, hrest⟩ := List.forall_mem_cons.mp hsources
    -- Adding the keys of a source to those listed so far does not fail.
    have hnext := hvalues.add hproper
    rw [List.foldlM_cons, hmore]
    rw [ok_bind] at hnext ⊢
    cases hkeys : distinct (values ++ more.keys) with
    | error failure =>
      obtain ⟨_, hok, -⟩ := hkeys ▸ hnext
      cases hok
    | ok keys =>
      refine (ih (hkeys ▸ hnext) hrest).congr fun k => ?_
      simp only [hholds, List.any_cons, Bool.or_assoc]

/-! ### What a mapping lists -/

theorem elementsWithin_dict (depth : Nat) (attributed : Bool) (address : Nat) :
    h.elementsWithin depth (.dict attributed address) = .ok (h.dict address).keys := by
  cases depth <;> rfl

theorem elementsWithin_view (depth : Nat) {serial : Nat} (entries : List (Value × Value))
    (hkept : h.replacement? serial = none) :
    h.elementsWithin depth (.view serial entries) = .ok (Table.keys ⟨entries⟩) := by
  cases depth <;> simp [elementsWithin, Value.sequence?, hkept, Table.keys]

/-- The keys of a configuration are those of its own entries, its sources and the defaults. -/
theorem any_tables_config (depth address : Nat) (k : Value) :
    (h.tablesWithin (depth + 1) (.config address)).any (·.contains k) =
      ((h.config address).own.contains k ||
        (h.config address).sources.any (fun source =>
          (h.tablesWithin depth source).any (·.contains k)) ||
        Table.contains ⟨Setting.defaults⟩ k) := by
  simp [tablesWithin, List.any_flatMap, Bool.or_assoc]

/-- **A layered mapping lists the keys of its layers.** -/
theorem LayeredWithin.lists (hsound : h.Sound) (hv : h.LayeredWithin depth v) (hvalue : v.Sound) :
    Lists (h.elementsWithin depth v) fun k => (h.tablesWithin depth v).any (·.contains k) := by
  induction hv with
  | dict depth attributed address =>
    rw [tablesWithin_dict, elementsWithin_dict]
    exact (lists_keys (hsound.dict address).proper).congr fun k => (Bool.or_false _).symm
  | view depth entries hkept =>
    rw [tablesWithin_view _ _ hkept, elementsWithin_view _ _ hkept]
    exact (lists_keys (Value.sound_view_iff.mp hvalue).proper).congr fun k =>
      (Bool.or_false _).symm
  | replaced entries hreplaced _ ih =>
    simpa [elementsWithin, tablesWithin, Value.sequence?, hreplaced] using
      ih (hsound.replacement _ _ hreplaced)
  | @config depth address haddress _ ih =>
    -- A configuration begins with the defaults and goes through its sources from the last one.
    have hsources (source : Value) (hsource : source ∈ (h.config address).sources.reverse) :=
      have hmem := List.mem_reverse.mp hsource
      ih source hmem (hsound.sources address source hmem)
    have hlayers := (lists_keys Entries.sound_defaults.proper).foldlM hsources
    rw [elementsWithin]
    refine (hlayers.add (hsound.own address).proper).congr fun k => ?_
    rw [any_tables_config, List.any_reverse]
    cases (h.config address).own.contains k <;> cases Table.contains ⟨Setting.defaults⟩ k <;> simp

/-- The length of a layered mapping is the number of the keys that it lists. -/
theorem LayeredWithin.lengthWithin_eq (hsound : h.Sound) (hv : h.LayeredWithin depth v)
    (hvalue : v.Sound) : h.lengthWithin depth v = counted (h.elementsWithin depth v) := by
  induction hv with
  | dict depth attributed address =>
    rw [elementsWithin_dict]
    cases depth <;> simp [lengthWithin, Value.sequence?, counted, Table.length_keys]
  | view depth entries hkept =>
    rw [elementsWithin_view _ _ hkept]
    cases depth <;>
      simp [lengthWithin, Value.sequence?, hkept, counted, Table.length_keys, Table.size]
  | replaced entries hreplaced _ ih =>
    simpa [elementsWithin, lengthWithin, Value.sequence?, hreplaced] using
      ih (hsound.replacement _ _ hreplaced)
  | @config depth address haddress hlayered ih =>
    have hsources (source : Value) (hsource : source ∈ (h.config address).sources) :=
      (hlayered source hsource).lists hsound (hsound.sources address source hsource)
    -- The layers are counted the first one first and listed the last one first.
    have hcounted := ((lists_keys (hsound.own address).proper).foldlM hsources).add
      Entries.sound_defaults.proper
    have hlisted := (LayeredWithin.config haddress hlayered).lists hsound hvalue
    rw [← (hcounted.congr fun k => (any_tables_config depth address k).symm).counted_eq hlisted]
    simp only [lengthWithin, Value.sequence?, Nat.add_sub_cancel, counted, bind_assoc]
    rfl

/-- Going through a value gives keys, each of them once, its length is their number, and they are
what it contains. -/
def ListsKeys (h : Heap) (v : Value) (keys : Entries) : Prop :=
  keys.Proper ∧ h.elements v = .ok keys.keys ∧ h.length v = .ok keys.size ∧
    ∀ k, k.Hashable → h.contains v k = .ok (keys.contains k)

/-- **A layered mapping lists its keys**, in a sound memory. -/
theorem Sound.listsKeys_of_layered (hsound : h.Sound) (hv : h.Layered v) (hvalue : v.Sound) :
    ∃ keys, h.ListsKeys v keys := by
  obtain ⟨depth, hdepth⟩ := hv
  obtain ⟨keys, hkeys, hproper, hcontains⟩ := hdepth.reach.lists hsound hvalue
  refine ⟨keys, hproper, hkeys, ?_, fun k hk => ?_⟩
  · rw [length, hdepth.reach.lengthWithin_eq hsound hvalue, hkeys, ← Table.length_keys]
    rfl
  · rw [contains_of_layered ⟨depth, hdepth⟩, consult_of_hashable hk, hcontains]
    simp only [Except.map, isSome_findSome?, Table.isSome_get?, tables]

end BoundedVars.Heap
