import BoundedVars.Table
import Mathlib.Data.List.Induction
import Mathlib.Data.List.Nodup

/-!
# Keys and entries of tables

What the operations of a table do to its list of keys (`keys_insert`, `keys_erase`), to its entries
and to its size.  From the first two: a table in which no key stands twice stays one
(`nodup_keys_insert`, `nodup_keys_erase`), and in such a table look-up and membership of entries are
the same thing (`get?_eq_some_iff`).  The table made from a list is one: its keys stand in the order
of their first mention (`keys_ofList`), and each has the value given for it last (`get?_ofList`).
-/

namespace BoundedVars.Table

variable {κ ν : Type} {t : Table κ ν} {k : κ} {v : ν}

@[simp] theorem keys_empty : (empty : Table κ ν).keys = [] := rfl

theorem isEmpty_iff : t.isEmpty = true ↔ t.entries = [] := by
  rw [isEmpty, List.isEmpty_iff]

theorem length_keys (t : Table κ ν) : t.keys.length = t.size :=
  List.length_map _

theorem mem_keys_of_mem {e : κ × ν} (h : e ∈ t.entries) : e.1 ∈ t.keys :=
  List.mem_map_of_mem h

/-- The first `n` entries of a table. -/
def take (n : Nat) (t : Table κ ν) : Table κ ν :=
  ⟨t.entries.take n⟩

theorem keys_take (n : Nat) (t : Table κ ν) : (t.take n).keys = t.keys.take n :=
  List.map_take

theorem size_take (n : Nat) (t : Table κ ν) : (t.take n).size = min n t.size :=
  List.length_take

theorem entries_take (n : Nat) (t : Table κ ν) : (t.take n).entries = t.entries.take n := rfl

theorem take_of_size_le {n : Nat} (h : t.size ≤ n) : t.take n = t := by
  rw [take, List.take_of_length_le h]

section Shape

variable [BEq κ]

theorem entries_insert_of_contains (h : t.contains k = true) :
    (t.insert k v).entries = t.entries.map fun e => if e.1 == k then (e.1, v) else e := by
  rw [insert, if_pos h]

theorem entries_insert_of_not_contains (h : t.contains k = false) :
    (t.insert k v).entries = t.entries ++ [(k, v)] := by
  rw [insert, if_neg (by rw [h]; exact Bool.false_ne_true)]

/-- Overwriting keeps the keys and their order, a new key goes last. -/
theorem keys_insert : (t.insert k v).keys = if t.contains k then t.keys else t.keys ++ [k] := by
  by_cases h : t.contains k = true
  · rw [if_pos h, keys, entries_insert_of_contains h, List.map_map, keys]
    apply List.map_congr_left
    intro e _
    simp only [Function.comp_apply]
    split_ifs <;> rfl
  · rw [Bool.not_eq_true] at h
    rw [if_neg (by rw [h]; exact Bool.false_ne_true), keys, entries_insert_of_not_contains h,
      List.map_append]
    rfl

theorem size_insert : (t.insert k v).size = if t.contains k then t.size else t.size + 1 := by
  by_cases h : t.contains k = true
  · rw [if_pos h, size, entries_insert_of_contains h, List.length_map, size]
  · rw [Bool.not_eq_true] at h
    rw [h, size, entries_insert_of_not_contains h, List.length_append]
    rfl

theorem keys_erase : (t.erase k).keys = t.keys.filter fun j => !(j == k) := by
  rw [keys, erase, keys, List.filter_map]
  rfl

theorem nodup_keys_erase (h : t.keys.Nodup) : (t.erase k).keys.Nodup := by
  rw [keys_erase]
  exact h.filter _

theorem size_erase_le : (t.erase k).size ≤ t.size :=
  List.length_filter_le ..

/-- Without the key there is nothing to remove. -/
theorem erase_of_not_contains (h : t.contains k = false) : t.erase k = t := by
  rw [contains, List.any_eq_false] at h
  have hkept : ∀ e ∈ t.entries, (!(e.1 == k)) = true := fun e he => by
    rw [Bool.not_eq_true', ← Bool.not_eq_true]
    exact h e he
  exact congrArg mk (List.filter_eq_self.mpr hkept)

theorem ofList_append_singleton (entries : List (κ × ν)) (e : κ × ν) :
    ofList (entries ++ [e]) = (ofList entries).insert e.1 e.2 :=
  List.foldl_append

theorem get?_mapValues {μ : Type} (f : ν → μ) (t : Table κ ν) (k : κ) :
    (t.mapValues f).get? k = (t.get? k).map f := by
  rw [get?, mapValues, List.find?_map, Option.map_map, get?, Option.map_map]
  rfl

/-- What is written behind the first entries does not change them. -/
theorem take_insert_of_not_contains {n : Nat} (hn : n ≤ t.size)
    (h : (t.take n).contains k = false) : (t.insert k v).take n = t.take n := by
  have hentries : ((t.insert k v).take n).entries = (t.take n).entries := by
    rw [entries_take, entries_take]
    by_cases hk : t.contains k = true
    · have hne : ∀ e ∈ t.entries.take n, (if e.1 == k then (e.1, v) else e) = e := by
        intro e he
        have hkey : ¬(e.1 == k) = true := fun heq => by
          rw [contains, List.any_eq_false] at h
          exact h e he heq
        rw [if_neg hkey]
      rw [entries_insert_of_contains hk, ← List.map_take, List.map_congr_left hne, List.map_id']
    · rw [Bool.not_eq_true] at hk
      rw [entries_insert_of_not_contains hk, List.take_append_of_le_length hn]
  exact congrArg mk hentries

end Shape

variable [BEq κ] [LawfulBEq κ]

theorem get?_insert [DecidableEq κ] (t : Table κ ν) (k : κ) (v : ν) (j : κ) :
    (t.insert k v).get? j = if k = j then some v else t.get? j := by
  split_ifs with h
  · rw [h, get?_insert_self]
  · exact get?_insert_of_ne t v (Ne.symm h)

theorem get?_erase [DecidableEq κ] (t : Table κ ν) (k j : κ) :
    (t.erase k).get? j = if k = j then none else t.get? j := by
  split_ifs with h
  · rw [h, get?_erase_self]
  · exact get?_erase_of_ne t (Ne.symm h)

theorem contains_iff : t.contains k = true ↔ k ∈ t.keys := by
  simp only [contains, keys, List.any_eq_true, List.mem_map, beq_iff_eq]

theorem contains_eq_false_iff : t.contains k = false ↔ k ∉ t.keys := by
  rw [← contains_iff, Bool.not_eq_true]

/-! ### Insertion -/

theorem mem_keys_insert {j : κ} : j ∈ (t.insert k v).keys ↔ j = k ∨ j ∈ t.keys := by
  rw [keys_insert]
  split_ifs with h
  · rw [contains_iff] at h
    exact ⟨Or.inr, fun hj => hj.elim (fun e => e ▸ h) id⟩
  · rw [List.mem_append, List.mem_singleton, or_comm]

theorem nodup_keys_insert (h : t.keys.Nodup) : (t.insert k v).keys.Nodup := by
  rw [keys_insert]
  split_ifs with hk
  · exact h
  · rw [contains_iff] at hk
    exact List.nodup_append.mpr ⟨h, List.nodup_singleton k, fun a ha b hb hab =>
      hk (by rw [List.mem_singleton] at hb; rwa [← hb, ← hab])⟩

/-- Every entry after an insertion is the new one or was there before. -/
theorem mem_entries_insert {e : κ × ν} (h : e ∈ (t.insert k v).entries) :
    e = (k, v) ∨ e ∈ t.entries := by
  by_cases hk : t.contains k = true
  · rw [entries_insert_of_contains hk, List.mem_map] at h
    obtain ⟨d, hd, rfl⟩ := h
    split_ifs with hdk
    · rw [beq_iff_eq] at hdk
      exact Or.inl (by rw [hdk])
    · exact Or.inr hd
  · rw [Bool.not_eq_true] at hk
    rw [entries_insert_of_not_contains hk, List.mem_append, List.mem_singleton] at h
    exact h.symm

/-- A table into which something was written is not empty. -/
theorem isEmpty_insert : (t.insert k v).isEmpty = false := by
  rw [← Bool.not_eq_true, isEmpty_iff]
  intro h
  have hmem : k ∈ (t.insert k v).keys := mem_keys_insert.mpr (Or.inl rfl)
  rw [keys, h] at hmem
  exact List.not_mem_nil hmem

/-- Of two values written under one key the second stays, at the place that the first had. -/
theorem insert_insert (t : Table κ ν) (k : κ) (v w : ν) :
    (t.insert k v).insert k w = t.insert k w := by
  have hfound : (t.insert k v).contains k = true :=
    contains_iff.mpr (mem_keys_insert.mpr (.inl rfl))
  refine congrArg mk (?_ : ((t.insert k v).insert k w).entries = (t.insert k w).entries)
  rw [entries_insert_of_contains hfound]
  by_cases h : t.contains k = true
  · rw [entries_insert_of_contains h, entries_insert_of_contains h, List.map_map]
    refine List.map_congr_left fun e _ => ?_
    by_cases he : e.1 = k
    · simp [he]
    · simp [he]
  · rw [Bool.not_eq_true] at h
    have hkept : ∀ e ∈ t.entries, (if e.1 == k then (e.1, w) else e) = e := fun e he => by
      rw [if_neg]
      exact fun heq => (contains_eq_false_iff.mp h) (beq_iff_eq.mp heq ▸ mem_keys_of_mem he)
    rw [entries_insert_of_not_contains h, entries_insert_of_not_contains h, List.map_append,
      List.map_congr_left hkept, List.map_id']
    simp

/-! ### Removal -/

theorem mem_entries_erase {e : κ × ν} : e ∈ (t.erase k).entries ↔ e ∈ t.entries ∧ e.1 ≠ k := by
  simp only [erase, List.mem_filter, Bool.not_eq_true', beq_eq_false_iff_ne]

theorem size_erase_lt_of_contains (h : t.contains k = true) : (t.erase k).size < t.size := by
  rw [contains, List.any_eq_true] at h
  obtain ⟨e, he, hk⟩ := h
  exact List.length_filter_lt_length_iff_exists.mpr ⟨e, he, by simpa using hk⟩

/-- Where no key stands twice, a key is removed once. -/
theorem size_erase_of_contains (hn : t.keys.Nodup) (h : t.contains k = true) :
    (t.erase k).size + 1 = t.size := by
  have hkeys : (t.erase k).keys = t.keys.erase k := by
    rw [keys_erase, hn.erase_eq_filter]
    rfl
  have hmem : k ∈ t.keys := contains_iff.mp h
  rw [← length_keys, ← length_keys, hkeys, List.length_erase_of_mem hmem]
  exact Nat.sub_add_cancel (List.length_pos_of_mem hmem)

/-! ### Look-up -/

theorem mem_entries_of_get? (h : t.get? k = some v) : (k, v) ∈ t.entries := by
  rw [get?, Option.map_eq_some_iff] at h
  obtain ⟨e, he, rfl⟩ := h
  have hk := List.find?_some he
  rw [beq_iff_eq] at hk
  exact hk ▸ List.mem_of_find?_eq_some he

/-- In a table with entries something is found. -/
theorem exists_get?_of_not_isEmpty (h : t.isEmpty = false) : ∃ k v, t.get? k = some v := by
  obtain ⟨entries⟩ := t
  cases entries with
  | nil => cases h
  | cons e rest => exact ⟨e.1, e.2, by simp [get?]⟩

/-- Where no key stands twice, an entry is found under its key. -/
theorem get?_eq_some_iff (hn : t.keys.Nodup) : t.get? k = some v ↔ (k, v) ∈ t.entries := by
  refine ⟨mem_entries_of_get?, fun h => ?_⟩
  have hc : (t.get? k).isSome := by
    rw [isSome_get?, contains_iff]
    exact mem_keys_of_mem h
  obtain ⟨w, hw⟩ := Option.isSome_iff_exists.mp hc
  have he : (k, w) = (k, v) := List.inj_on_of_nodup_map hn (mem_entries_of_get? hw) h rfl
  have hwv : w = v := congrArg Prod.snd he
  rw [hw, hwv]

/-- Looking up in a table and in the list of its entries come to the same. -/
theorem get?_eq_lookup (t : Table κ ν) (k : κ) : t.get? k = t.entries.lookup k := by
  obtain ⟨entries⟩ := t
  induction entries with
  | nil => rfl
  | cons e rest ih =>
    rw [get?, List.find?_cons, List.lookup_cons]
    by_cases he : e.1 = k
    · simp [he]
    · rw [beq_false_of_ne he, beq_false_of_ne (Ne.symm he)]
      exact ih

/-- Where no key stands twice, the order of the entries does not matter. -/
theorem lookup_eq_of_perm {entries other : List (κ × ν)} (hperm : entries.Perm other)
    (hn : (other.map (·.1)).Nodup) (k : κ) : entries.lookup k = other.lookup k := by
  have hentries : (mk entries).keys.Nodup := (hperm.map _).nodup_iff.mpr hn
  have hother : (mk other).keys.Nodup := hn
  rw [← get?_eq_lookup ⟨entries⟩, ← get?_eq_lookup ⟨other⟩]
  refine Option.ext fun v => ?_
  rw [get?_eq_some_iff hentries, get?_eq_some_iff hother]
  exact hperm.mem_iff

/-! ### Tables made from lists -/

theorem nodup_keys_ofList (entries : List (κ × ν)) : (ofList entries).keys.Nodup := by
  induction entries using List.reverseRecOn with
  | nil => exact List.nodup_nil
  | append_singleton entries e ih =>
    rw [ofList_append_singleton]
    exact nodup_keys_insert ih

/-- Every key stands where it is mentioned first. -/
theorem keys_ofList (entries : List (κ × ν)) :
    (ofList entries).keys = (entries.map (·.1)).eraseDups := by
  induction entries using List.reverseRecOn with
  | nil => rfl
  | append_singleton entries e ih =>
    rw [ofList_append_singleton, keys_insert, List.map_append, List.eraseDups_append, ← ih]
    have hmem : (ofList entries).contains e.1 = true ↔ e.1 ∈ entries.map (·.1) := by
      rw [contains_iff, ih, List.mem_eraseDups]
    rw [List.map_singleton]
    split_ifs with hc
    · rw [List.removeAll, List.filter_cons_of_neg (by simpa using hmem.mp hc)]
      exact (List.append_nil _).symm
    · rw [List.removeAll, List.filter_cons_of_pos (by simpa using fun h => hc (hmem.mpr h))]
      rfl

/-- A key has the value given for it last. -/
theorem get?_ofList (entries : List (κ × ν)) (k : κ) :
    (ofList entries).get? k = entries.reverse.lookup k := by
  induction entries using List.reverseRecOn with
  | nil => rfl
  | append_singleton entries e ih =>
    rw [ofList_append_singleton, List.reverse_append, List.reverse_singleton,
      List.singleton_append, List.lookup_cons]
    by_cases hk : k = e.1
    · rw [hk, get?_insert_self, beq_self_eq_true]
    · rw [get?_insert_of_ne _ _ hk, beq_false_of_ne hk, ih]

/-! ### The first entries -/

theorem contains_of_contains_take {n : Nat} (h : (t.take n).contains k = true) :
    t.contains k = true := by
  rw [contains_iff, keys_take] at h
  exact contains_iff.mpr (List.mem_of_mem_take h)

/-- What is found among the first entries is what is found. -/
theorem get?_take_of_mem {n : Nat} (h : k ∈ (t.take n).keys) : (t.take n).get? k = t.get? k := by
  obtain ⟨v, hv⟩ := Option.isSome_iff_exists.mp ((isSome_get? _ k).trans (contains_iff.mpr h))
  rw [get?, Option.map_eq_some_iff] at hv
  obtain ⟨e, he, rfl⟩ := hv
  have hfound : t.entries.find? (·.1 == k) = some e := by
    rw [← List.take_append_drop n t.entries, List.find?_append]
    exact Option.or_eq_some_iff.mpr (Or.inl he)
  rw [get?, he, get?, hfound]

/-- Overwriting does the same to the first entries as to all. -/
theorem take_insert_of_contains {n : Nat} (h : (t.take n).contains k = true) :
    (t.insert k v).take n = (t.take n).insert k v := by
  have hentries : ((t.insert k v).take n).entries = ((t.take n).insert k v).entries := by
    rw [entries_insert_of_contains h, entries_take, entries_take,
      entries_insert_of_contains (contains_of_contains_take h), List.map_take]
  exact congrArg mk hentries

/-! ### Tables grow in the order of their entries -/

variable {entries : List (κ × ν)} {e : κ × ν}

theorem not_contains_of_begins (hbegins : entries ++ [e] <+: t.entries) (hn : t.keys.Nodup) :
    (⟨entries⟩ : Table κ ν).contains e.1 = false := by
  have hnodup := (hbegins.map Prod.fst).sublist.nodup hn
  rw [List.map_append] at hnodup
  rw [contains_eq_false_iff]
  exact fun hkey => List.disjoint_of_nodup_append hnodup hkey (List.mem_singleton_self _)

/-- Among the first entries of a table the next one is new and goes last. -/
theorem insert_of_begins (hbegins : entries ++ [e] <+: t.entries) (hn : t.keys.Nodup) :
    (⟨entries⟩ : Table κ ν).insert e.1 e.2 = ⟨entries ++ [e]⟩ :=
  congrArg mk (entries_insert_of_not_contains (not_contains_of_begins hbegins hn))

end BoundedVars.Table
