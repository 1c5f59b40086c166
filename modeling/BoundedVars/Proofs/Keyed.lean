import BoundedVars.Proofs.Table
import Mathlib.Data.List.Perm.Subperm

/-!
# Tables with keys that can be the same without being equal

`==` on keys need not be equality: two numbers of different kinds are different values and the same
key.  It is symmetric and transitive, and that is enough for look-up to respect it
(`Table.get?_congr`) and for the equations about writing and removing (`Table.get?_insert_ite`,
`Table.get?_erase_ite`).

A table is *proper* if every key in it is the same as itself and as no other one (`Table.Proper`).
In a proper table every entry is found under its key, the order of the entries makes no difference
to look-up (`Table.Proper.get?_eq_of_perm`), and writing all entries of the table one after another
gives the table again (`Table.Proper.insertAll_entries`).  Of two proper tables of the same size, if
one has all keys of the other then the other has all keys of the one
(`Table.Proper.contains_of_size_eq`).
-/

namespace BoundedVars.Table

variable {κ ν : Type} [BEq κ] {t u : Table κ ν} {k j : κ} {v : ν}

/-! ### Look-up -/

theorem exists_of_get? (hv : t.get? k = some v) :
    ∃ e ∈ t.entries, (e.1 == k) = true ∧ e.2 = v := by
  obtain ⟨e, he, rfl⟩ := Option.map_eq_some_iff.mp hv
  have hkey := List.find?_some he
  exact ⟨e, List.mem_of_find?_eq_some he, hkey, rfl⟩

theorem mem_values_of_get? (hv : t.get? k = some v) : v ∈ t.values := by
  obtain ⟨e, he, -, rfl⟩ := exists_of_get? hv
  exact List.mem_map_of_mem he

/-- Every value after an insertion is the new one or was there before. -/
theorem mem_values_insert {w : ν} (hw : w ∈ (t.insert k v).values) : w = v ∨ w ∈ t.values := by
  obtain ⟨e, he, rfl⟩ := List.mem_map.mp hw
  cases hcontains : t.contains k with
  | true =>
    rw [entries_insert_of_contains hcontains, List.mem_map] at he
    obtain ⟨d, hd, rfl⟩ := he
    split_ifs
    · exact .inl rfl
    · exact .inr (List.mem_map_of_mem hd)
  | false =>
    rw [entries_insert_of_not_contains hcontains, List.mem_append, List.mem_singleton] at he
    rcases he with he | rfl
    · exact .inr (List.mem_map_of_mem he)
    · exact .inl rfl

section Congruence

variable [PartialEquivBEq κ]

/-- **The same key finds the same.** -/
theorem get?_congr (hkey : (k == j) = true) (t : Table κ ν) : t.get? k = t.get? j := by
  have hpred : (fun e : κ × ν => e.1 == k) = fun e => e.1 == j :=
    funext fun _ => BEq.congr_right hkey
  rw [get?, get?, hpred]

theorem contains_congr (hkey : (k == j) = true) (t : Table κ ν) : t.contains k = t.contains j := by
  rw [← isSome_get?, ← isSome_get?, get?_congr hkey]

/-- **Writing under a key** shows under the same keys. -/
theorem get?_insert_ite (t : Table κ ν) (k : κ) (v : ν) (j : κ) :
    (t.insert k v).get? j = if (k == j) = true then some v else t.get? j := by
  cases hcontains : t.contains k with
  | true =>
    have hentries := entries_insert_of_contains (v := v) hcontains
    rw [get?, hentries, find?_map_overwrite]
    cases hfound : t.entries.find? (·.1 == j) with
    | none =>
      -- Nothing is found under `j`, so `j` is not the key that was overwritten.
      have hnone : t.get? j = none := by rw [get?, hfound]; rfl
      have hne : (k == j) = false := by
        by_contra hkey
        rw [Bool.not_eq_false] at hkey
        rw [contains_congr hkey, ← isSome_get?, hnone] at hcontains
        cases hcontains
      simp [hne, hnone]
    | some e =>
      have hj := List.find?_some hfound
      have hsome : t.get? j = some e.2 := by rw [get?, hfound]; rfl
      -- The first entry under `j` was overwritten exactly if its key is the same as `k`.
      have hsame : (e.1 == k) = (k == j) := by
        rw [BEq.congr_left hj, BEq.comm]
      cases hkey : k == j <;> simp [hsame, hkey, hsome]
  | false =>
    -- A new entry comes last, where it is found only if there is none before it.
    rw [get?, entries_insert_of_not_contains hcontains, List.find?_append]
    cases hkey : k == j with
    | true =>
      have hnone : t.get? j = none := by
        rw [← Option.isNone_iff_eq_none, ← Option.not_isSome, isSome_get?, ← contains_congr hkey,
          hcontains]
        rfl
      rw [get?, Option.map_eq_none_iff] at hnone
      simp [hnone, hkey]
    | false => simp [get?, hkey]

/-- **Removing a key** removes what stands under the same keys. -/
theorem get?_erase_ite (t : Table κ ν) (k j : κ) :
    (t.erase k).get? j = if (k == j) = true then none else t.get? j := by
  rw [get?, erase, List.find?_filter]
  cases hkey : k == j with
  | true =>
    have hnone : t.entries.find? (fun e => !(e.1 == k) && e.1 == j) = none := by
      rw [List.find?_eq_none]
      intro e _
      rw [BEq.congr_right hkey]
      cases e.1 == j <;> simp
    simp [hnone]
  | false =>
    -- No entry under `j` was removed, since `k` is another key.
    have hpred : (fun e : κ × ν => !(e.1 == k) && e.1 == j) = fun e => e.1 == j := by
      funext e
      cases hj : e.1 == j with
      | true => rw [BEq.congr_left hj, BEq.comm, hkey]; rfl
      | false => simp
    simp [hpred, get?]

end Congruence

/-! ### Proper tables -/

/-- Every key is the same as itself and as no other one. -/
structure Proper (t : Table κ ν) : Prop where
  distinct : t.keys.Pairwise fun a b => (a == b) = false
  self : ∀ k ∈ t.keys, (k == k) = true

theorem proper_empty : (empty : Table κ ν).Proper :=
  ⟨.nil, fun _ hk => absurd hk List.not_mem_nil⟩

theorem proper_cons_iff {e : κ × ν} {rest : List (κ × ν)} :
    (⟨e :: rest⟩ : Table κ ν).Proper ↔
      (e.1 == e.1) = true ∧ (∀ k ∈ rest.map (·.1), (e.1 == k) = false) ∧
        (⟨rest⟩ : Table κ ν).Proper := by
  constructor
  · rintro ⟨hdistinct, hself⟩
    obtain ⟨hfirst, hrest⟩ := List.pairwise_cons.mp hdistinct
    exact ⟨hself e.1 List.mem_cons_self, hfirst, hrest,
      fun k hk => hself k (List.mem_cons_of_mem _ hk)⟩
  · rintro ⟨hself, hfirst, hrest⟩
    exact ⟨List.pairwise_cons.mpr ⟨hfirst, hrest.distinct⟩,
      List.forall_mem_cons.mpr ⟨hself, hrest.self⟩⟩

/-- An entry is found under its key. -/
theorem Proper.get?_of_mem (ht : t.Proper) {e : κ × ν} (he : e ∈ t.entries) :
    t.get? e.1 = some e.2 := by
  obtain ⟨entries⟩ := t
  induction entries with
  | nil => cases he
  | cons first rest ih =>
    obtain ⟨hself, hfirst, hrest⟩ := proper_cons_iff.mp ht
    rw [get?, List.find?_cons]
    rcases List.mem_cons.mp he with rfl | he
    · rw [hself]
      rfl
    · rw [hfirst e.1 (List.mem_map_of_mem he)]
      exact ih hrest he

/-- Each key is in the table. -/
theorem Proper.contains_of_mem (ht : t.Proper) (hk : k ∈ t.keys) : t.contains k = true := by
  obtain ⟨e, he, rfl⟩ := List.mem_map.mp hk
  rw [← isSome_get?, ht.get?_of_mem he]
  rfl

theorem Proper.erase (ht : t.Proper) (k : κ) : (t.erase k).Proper := by
  have hsub : (t.erase k).keys.Sublist t.keys := List.filter_sublist.map _
  exact ⟨ht.distinct.sublist hsub, fun j hj => ht.self j (hsub.subset hj)⟩

/-- **Writing the entries of a proper table** one after another gives the table. -/
theorem Proper.insertAll_entries (ht : t.Proper) : empty.insertAll t.entries = t := by
  obtain ⟨entries⟩ := t
  induction entries using List.reverseRecOn with
  | nil => rfl
  | append_singleton entries e ih =>
    have hkeys : (⟨entries ++ [e]⟩ : Table κ ν).keys = entries.map (·.1) ++ [e.1] := by simp [keys]
    obtain ⟨hdistinct, hself⟩ := ht
    rw [hkeys] at hdistinct hself
    obtain ⟨hrest, -, hlast⟩ := List.pairwise_append.mp hdistinct
    have hproper : (⟨entries⟩ : Table κ ν).Proper :=
      ⟨hrest, fun k hk => hself k (List.mem_append_left _ hk)⟩
    -- The last key is the same as none before it, so its entry comes to stand last again.
    have hnew : (⟨entries⟩ : Table κ ν).contains e.1 = false := by
      rw [contains, List.any_eq_false]
      intro d hd
      rw [hlast d.1 (List.mem_map_of_mem hd) e.1 (List.mem_singleton_self _)]
      exact Bool.false_ne_true
    have hall : (empty : Table κ ν).insertAll entries = ⟨entries⟩ := ih hproper
    rw [insertAll, List.foldl_append]
    rw [insertAll] at hall
    rw [hall]
    have hentries : ((⟨entries⟩ : Table κ ν).insert e.1 e.2).entries = entries ++ [e] :=
      entries_insert_of_not_contains hnew
    exact congrArg Table.mk hentries

variable [PartialEquivBEq κ]

/-- **Each key is counted once**, under whatever value that is the same key. -/
theorem Proper.countP_keys (ht : t.Proper) (k : κ) :
    t.keys.countP (· == k) = if t.contains k = true then 1 else 0 := by
  obtain ⟨entries⟩ := t
  induction entries with
  | nil => rfl
  | cons e rest ih =>
    obtain ⟨-, hfirst, hrest⟩ := proper_cons_iff.mp ht
    have hkeys : (⟨e :: rest⟩ : Table κ ν).keys = e.1 :: (⟨rest⟩ : Table κ ν).keys := rfl
    have hcontains : (⟨e :: rest⟩ : Table κ ν).contains k =
        ((e.1 == k) || (⟨rest⟩ : Table κ ν).contains k) := rfl
    rw [hkeys, List.countP_cons, ih hrest, hcontains]
    cases hkey : e.1 == k with
    | false => simp
    | true =>
      -- What is the same as the first key is the same as no other one.
      have hother : (⟨rest⟩ : Table κ ν).contains k = false := by
        rw [contains, List.any_eq_false]
        intro d hd
        rw [← BEq.congr_right hkey, BEq.comm, hfirst d.1 (List.mem_map_of_mem hd)]
        exact Bool.false_ne_true
      simp [hother]

theorem Proper.get?_eq_some_iff (ht : t.Proper) :
    t.get? k = some v ↔ ∃ e ∈ t.entries, (e.1 == k) = true ∧ e.2 = v := by
  refine ⟨exists_of_get?, ?_⟩
  rintro ⟨e, he, hkey, rfl⟩
  rw [← get?_congr hkey, ht.get?_of_mem he]

theorem Proper.of_perm (ht : t.Proper) (hperm : t.entries.Perm u.entries) : u.Proper := by
  have hkeys : t.keys.Perm u.keys := hperm.map _
  refine ⟨(hkeys.pairwise_iff fun hab => ?_).mp ht.distinct, fun k hk => ?_⟩
  · rwa [BEq.comm]
  · exact ht.self k (hkeys.mem_iff.mpr hk)

/-- **The order of the entries makes no difference to look-up.** -/
theorem Proper.get?_eq_of_perm (ht : t.Proper) (hperm : t.entries.Perm u.entries) (k : κ) :
    u.get? k = t.get? k := by
  refine Option.ext fun v => ?_
  rw [ht.get?_eq_some_iff, (ht.of_perm hperm).get?_eq_some_iff]
  simp only [hperm.mem_iff]

theorem Proper.insert (ht : t.Proper) (hself : (k == k) = true) (v : ν) :
    (t.insert k v).Proper := by
  have hkeys := keys_insert (t := t) (k := k) (v := v)
  cases hcontains : t.contains k with
  | true =>
    -- Overwriting leaves the keys as they are.
    rw [hcontains, if_pos rfl] at hkeys
    exact ⟨hkeys ▸ ht.distinct, hkeys ▸ ht.self⟩
  | false =>
    rw [hcontains, if_neg Bool.false_ne_true] at hkeys
    have hnew : ∀ a ∈ t.keys, (a == k) = false := by
      intro a ha
      by_contra hkey
      rw [Bool.not_eq_false] at hkey
      rw [← contains_congr hkey, ht.contains_of_mem ha] at hcontains
      cases hcontains
    constructor
    · rw [hkeys, List.pairwise_append]
      exact ⟨ht.distinct, List.pairwise_singleton _ k,
        fun a ha b hb => List.mem_singleton.mp hb ▸ hnew a ha⟩
    · rw [hkeys, List.forall_mem_append]
      exact ⟨ht.self, List.forall_mem_singleton.mpr hself⟩

/-- If all keys of a proper table are in another one, different keys are found as different keys. -/
theorem Proper.exists_subperm (ht : t.Proper) (hkeys : ∀ k ∈ t.keys, u.contains k = true) :
    ∃ found : κ → κ, (t.keys.map found).Subperm u.keys ∧
      ∀ k ∈ t.keys, (found k == k) = true := by
  have hfind : ∀ k ∈ t.keys, ∃ k' ∈ u.keys, (k' == k) = true := by
    intro k hk
    obtain ⟨e, he, hkey⟩ := List.any_eq_true.mp (hkeys k hk)
    exact ⟨e.1, mem_keys_of_mem he, hkey⟩
  choose! found hmem hfound using hfind
  -- Keys that are found as one and the same are the same key.
  have hnodup : (t.keys.map found).Nodup := by
    refine List.pairwise_map.mpr (ht.distinct.imp_of_mem fun {a b} ha hb hab heq => ?_)
    have hsame : (a == b) = true := BEq.trans (BEq.symm (hfound a ha)) (heq ▸ hfound b hb)
    exact Bool.false_ne_true (hab.symm.trans hsame)
  have hsubset : t.keys.map found ⊆ u.keys := by
    intro k' hk'
    obtain ⟨k, hk, rfl⟩ := List.mem_map.mp hk'
    exact hmem k hk
  exact ⟨found, List.subperm_of_subset hnodup hsubset, hfound⟩

/-- **A proper table has no more entries** than one that has all its keys. -/
theorem Proper.size_le (ht : t.Proper) (hkeys : ∀ k ∈ t.keys, u.contains k = true) :
    t.size ≤ u.size := by
  obtain ⟨found, hsubperm, -⟩ := ht.exists_subperm hkeys
  simpa [length_keys] using hsubperm.length_le

/-- **If a table of the same size** has all keys of a proper table, then these are all its keys. -/
theorem Proper.contains_of_size_eq (ht : t.Proper) (hsize : t.size = u.size)
    (hkeys : ∀ k ∈ t.keys, u.contains k = true) : ∀ k ∈ u.keys, t.contains k = true := by
  obtain ⟨found, hsubperm, hfound⟩ := ht.exists_subperm hkeys
  have hlength : u.keys.length ≤ (t.keys.map found).length := by
    rw [List.length_map, length_keys, length_keys]
    exact Nat.le_of_eq hsize.symm
  have hperm := hsubperm.perm_of_length_le hlength
  intro k hk
  obtain ⟨k', hk', rfl⟩ := List.mem_map.mp (hperm.mem_iff.mpr hk)
  rw [contains_congr (hfound k' hk')]
  exact ht.contains_of_mem hk'

/-- Proper tables with the same keys have the same size. -/
theorem Proper.size_eq (ht : t.Proper) (hu : u.Proper) (hsame : ∀ k, t.contains k = u.contains k) :
    t.size = u.size :=
  Nat.le_antisymm (ht.size_le fun k hk => hsame k ▸ ht.contains_of_mem hk)
    (hu.size_le fun k hk => (hsame k).symm ▸ hu.contains_of_mem hk)

/-- Of two proper tables of the same size either each has all keys of the other, or neither. -/
theorem Proper.all_contains_comm (ht : t.Proper) (hu : u.Proper) :
    (t.size == u.size && t.keys.all u.contains) = (u.size == t.size && u.keys.all t.contains) := by
  rw [Bool.eq_iff_iff]
  simp only [Bool.and_eq_true, beq_iff_eq, List.all_eq_true]
  exact ⟨fun ⟨hsize, hkeys⟩ => ⟨hsize.symm, ht.contains_of_size_eq hsize hkeys⟩,
    fun ⟨hsize, hkeys⟩ => ⟨hsize.symm, hu.contains_of_size_eq hsize hkeys⟩⟩

end BoundedVars.Table
