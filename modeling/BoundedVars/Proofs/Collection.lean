import BoundedVars.Proofs.Except
import BoundedVars.Proofs.Key
import BoundedVars.Proofs.Keyed
import BoundedVars.View

/-!
# Combining keys

A reader of a mapping combines the keys with a list by asking, key by key, what is where
(`Reading.meet` and the others).  A dictionary has its own way: it starts with its keys, or with
nothing, and adds and removes the elements of the list one after another (`Entries.keysMet` and the
others).  Either way the first element that cannot be a key is a failure, and otherwise the
collections have the same elements, none of them twice (`Entries.meet_same` and the others).
-/

namespace BoundedVars

open Except

/-! ### Elements that can be keys -/

/-- Checks one after another whether values can be keys. -/
def checkKeys (values : List Value) : Except Failure Unit :=
  match values.findSome? Value.unhashable? with
  | some kind => .error (.unhashable kind)
  | none => .ok ()

variable {entries found : Entries} {values others : List Value} {v k : Value}

@[simp] theorem checkKeys_nil : checkKeys [] = .ok () := rfl

theorem checkKeys_cons_of_hashable (hv : v.Hashable) (rest : List Value) :
    checkKeys (v :: rest) = checkKeys rest := by
  rw [checkKeys, List.findSome?_cons, show v.unhashable? = none from hv, checkKeys]

theorem checkKeys_cons_of_unhashable {kind : String} (hv : v.unhashable? = some kind)
    (rest : List Value) : checkKeys (v :: rest) = .error (.unhashable kind) := by
  rw [checkKeys, List.findSome?_cons, hv]

theorem checkKeys_append_of_hashable (hvalues : ∀ v ∈ values, v.Hashable) :
    checkKeys (values ++ others) = checkKeys others := by
  induction values with
  | nil => rfl
  | cons v rest ih =>
    obtain ⟨hv, hrest⟩ := List.forall_mem_cons.mp hvalues
    rw [List.cons_append, checkKeys_cons_of_hashable hv, ih hrest]

theorem checkKeys_eq_ok_iff : checkKeys values = .ok () ↔ ∀ v ∈ values, v.Hashable := by
  induction values with
  | nil => simp
  | cons v rest ih =>
    rw [List.forall_mem_cons]
    cases hv : v.unhashable? with
    | none =>
      have hhashable : v.Hashable := hv
      rw [checkKeys_cons_of_hashable hhashable, ih]
      exact ⟨fun hrest => ⟨hhashable, hrest⟩, And.right⟩
    | some kind =>
      rw [checkKeys_cons_of_unhashable hv]
      refine iff_of_false nofun fun hall => ?_
      rw [show v.unhashable? = none from hall.1] at hv
      cases hv

/-- Asking tables about elements fails at the first one that cannot be a key. -/
theorem filterM_eq_of_checked (values : List Value) {p : Value → Except Failure Bool}
    {q : Value → Bool} (hok : ∀ v, v.Hashable → p v = .ok (q v))
    (herror : ∀ v kind, v.unhashable? = some kind → p v = .error (.unhashable kind)) :
    values.filterM p = (checkKeys values).map fun _ => values.filter q := by
  -- What was accepted so far is kept in reverse, so the induction is about any such list.
  have haux (accepted : List Value) :
      values.filterAuxM p accepted =
        (checkKeys values).map fun _ => (values.filter q).reverse ++ accepted := by
    induction values generalizing accepted with
    | nil => rfl
    | cons v rest ih =>
      rw [List.filterAuxM]
      cases hv : v.unhashable? with
      | none =>
        rw [hok v hv, ok_bind, ih, checkKeys_cons_of_hashable hv, List.filter_cons]
        cases q v <;> simp
      | some kind => rw [herror v kind hv, checkKeys_cons_of_unhashable hv]; rfl
  rw [List.filterM, haux]
  cases checkKeys values <;> simp [Except.map]

/-- Going through values, and failing at each that cannot be a key, fails at the first of them. -/
theorem foldlM_eq_of_checked (values : List Value) (entries : Entries)
    {f : Entries → Value → Except Failure Entries} {g : Entries → Value → Entries}
    (hok : ∀ entries v, v.Hashable → f entries v = .ok (g entries v))
    (herror : ∀ entries v kind, v.unhashable? = some kind →
      f entries v = .error (.unhashable kind)) :
    values.foldlM f entries = (checkKeys values).map fun _ => values.foldl g entries := by
  induction values generalizing entries with
  | nil => rfl
  | cons v rest ih =>
    rw [List.foldlM_cons]
    cases hv : v.unhashable? with
    | none => rw [hok entries v hv, ok_bind, ih, checkKeys_cons_of_hashable hv, List.foldl_cons]
    | some kind => rw [herror entries v kind hv, checkKeys_cons_of_unhashable hv]; rfl

/-! ### Tables of elements -/

theorem Entries.find?_of_hashable (hk : k.Hashable) (entries : Entries) :
    entries.find? k = .ok (entries.get? k) := by
  rw [Entries.find?, show k.unhashable? = none from hk]

theorem Entries.find?_of_unhashable {kind : String} (hk : k.unhashable? = some kind)
    (entries : Entries) : entries.find? k = .error (.unhashable kind) := by
  rw [Entries.find?, hk]

theorem Entries.putAll_eq (entries : Entries) (new : List (Value × Value)) :
    entries.putAll new = (checkKeys (new.map (·.1))).map fun _ => entries.insertAll new := by
  induction new generalizing entries with
  | nil => rfl
  | cons e rest ih =>
    rw [Entries.putAll, List.foldlM_cons, List.map_cons, Entries.put]
    cases hkey : e.1.unhashable? with
    | none =>
      rw [checkKeys_cons_of_hashable hkey]
      exact ih (entries.insert e.1 e.2)
    | some kind => rw [checkKeys_cons_of_unhashable hkey]; rfl

theorem contains_eq_any (entries : Entries) (k : Value) :
    entries.contains k = entries.keys.any (· == k) := by
  rw [Table.contains, Table.keys, List.any_map]
  rfl

theorem contains_insert (entries : Entries) (key value k : Value) :
    (entries.insert key value).contains k = (key == k || entries.contains k) := by
  rw [← Table.isSome_get?, Table.get?_insert_ite, ← Table.isSome_get? entries]
  cases key == k <;> simp

theorem contains_erase (entries : Entries) (key k : Value) :
    (entries.erase key).contains k = (entries.contains k && !(key == k)) := by
  rw [← Table.isSome_get?, Table.get?_erase_ite, ← Table.isSome_get? entries]
  cases key == k <;> simp

theorem contains_insertAll (entries : Entries) (new : List (Value × Value)) (k : Value) :
    (entries.insertAll new).contains k = (entries.contains k || new.any (·.1 == k)) := by
  induction new generalizing entries with
  | nil => simp [Table.insertAll]
  | cons e rest ih =>
    have hrest := ih (entries.insert e.1 e.2)
    rw [contains_insert] at hrest
    rw [Table.insertAll, List.foldl_cons, List.any_cons]
    rw [Table.insertAll] at hrest
    rw [hrest, Bool.or_comm (e.1 == k), Bool.or_assoc]

theorem proper_insertAll (hentries : entries.Proper) {new : List (Value × Value)}
    (hnew : ∀ k ∈ new.map (·.1), k.Hashable) : (entries.insertAll new).Proper := by
  induction new generalizing entries with
  | nil => exact hentries
  | cons e rest ih =>
    obtain ⟨hkey, hrest⟩ := List.forall_mem_cons.mp hnew
    exact ih (hentries.insert hkey.beq_self e.2) hrest

/-- The keys of a proper table can be keys. -/
theorem hashable_of_proper (hentries : entries.Proper) : ∀ k ∈ entries.keys, k.Hashable :=
  fun k hk => Value.hashable_of_beq (hentries.self k hk)

/-- Values as the keys of a table. -/
def asKeys (values : List Value) : Entries :=
  Table.ofList (values.map fun v => (v, .none))

theorem contains_asKeys (values : List Value) (k : Value) :
    (asKeys values).contains k = values.any (· == k) := by
  rw [asKeys, Table.ofList, contains_insertAll, List.any_map]
  rfl

theorem map_fst_pairs (values : List Value) :
    (values.map fun v => (v, Value.none)).map (·.1) = values := by
  rw [List.map_map]
  exact List.map_id values

theorem proper_asKeys (hvalues : ∀ v ∈ values, v.Hashable) : (asKeys values).Proper :=
  proper_insertAll Table.proper_empty (by rwa [map_fst_pairs])

theorem keySet_eq (values : List Value) :
    keySet values = (checkKeys values).map fun _ => asKeys values := by
  rw [keySet, Entries.putAll_eq, map_fst_pairs]
  rfl

theorem distinct_eq (values : List Value) :
    distinct values = (checkKeys values).map fun _ => (asKeys values).keys := by
  have hdistinct : distinct values = (keySet values).map Table.keys := by
    rw [distinct, keySet]
    cases Entries.putAll .empty (values.map fun v => (v, .none)) <;> rfl
  rw [hdistinct, keySet_eq]
  cases checkKeys values <;> rfl

/-! ### Collections -/

/-- A combination with the elements of a list fails at the first of them that cannot be a key, or
else it is a collection: of its elements none stands twice, and they are those that `holds` is true
of. -/
def Collects (others : List Value) (holds : Value → Bool)
    (combined : Except Failure (List Value)) : Prop :=
  ∃ collected : Entries, combined = (checkKeys others).map (fun _ => collected.keys) ∧
    ((∀ v ∈ others, v.Hashable) → collected.Proper ∧ ∀ k, collected.contains k = holds k)

/-- Two combinations come to the same: to the same failure, or to collections with the same
elements, of which none stands twice. -/
inductive SameCollection : Except Failure (List Value) → Except Failure (List Value) → Prop
  | error (failure : Failure) : SameCollection (.error failure) (.error failure)
  | ok {first second : Entries} (hfirst : first.Proper) (hsecond : second.Proper)
    (hsame : ∀ k, first.contains k = second.contains k) :
    SameCollection (.ok first.keys) (.ok second.keys)

theorem Collects.same {holds : Value → Bool} {first second : Except Failure (List Value)}
    (hfirst : Collects others holds first) (hsecond : Collects others holds second) :
    SameCollection first second := by
  obtain ⟨collected, rfl, hcollected⟩ := hfirst
  obtain ⟨collected', rfl, hcollected'⟩ := hsecond
  cases hcheck : checkKeys others with
  | error failure => exact .error failure
  | ok =>
    have hothers := checkKeys_eq_ok_iff.mp hcheck
    obtain ⟨hproper, hholds⟩ := hcollected hothers
    obtain ⟨hproper', hholds'⟩ := hcollected' hothers
    exact .ok hproper hproper' fun k => (hholds k).trans (hholds' k).symm

theorem Collects.congr {holds holds' : Value → Bool} {combined : Except Failure (List Value)}
    (hcombined : Collects others holds combined) (hholds : ∀ k, holds k = holds' k) :
    Collects others holds' combined := by
  obtain ⟨collected, heq, hcollected⟩ := hcombined
  exact ⟨collected, heq, fun hothers =>
    ⟨(hcollected hothers).1, fun k => ((hcollected hothers).2 k).trans (hholds k)⟩⟩

/-- Collecting values that can be keys as soon as the others can. -/
theorem collects_asKeys {values : List Value}
    (hvalues : (∀ v ∈ others, v.Hashable) → ∀ v ∈ values, v.Hashable) :
    Collects others (fun k => values.any (· == k))
      ((checkKeys others).map fun _ => (asKeys values).keys) :=
  ⟨asKeys values, rfl, fun hothers => ⟨proper_asKeys (hvalues hothers), contains_asKeys values⟩⟩

/-! ### What a dictionary does -/

namespace Entries

/-- A dictionary begins with nothing and adds the elements that are keys. -/
def keysMet (entries : Entries) (others : List Value) : Except Failure (List Value) := do
  let met ← others.foldlM (fun (met : Entries) other => do
    match ← entries.find? other with
    | some _ => met.put other .none
    | none => return met) .empty
  return met.keys

/-- The keys and the elements together: a dictionary begins with its keys and adds the elements. -/
def keysJoined (entries : Entries) (others : List Value) : Except Failure (List Value) := do
  return (← entries.putAll (others.map fun v => (v, .none))).keys

/-- The keys without the elements: a dictionary begins with its keys and removes the elements. -/
def keysLeft (entries : Entries) (others : List Value) : Except Failure (List Value) := do
  let left ← others.foldlM (fun left other => do
    let _ ← left.find? other
    return left.erase other) entries
  return left.keys

/-- What is only a key or only an element: a dictionary begins with its keys and removes or adds
each of the elements, once. -/
def keysApart (entries : Entries) (others : List Value) : Except Failure (List Value) := do
  let others ← keySet others
  return (others.keys.foldl (fun apart other =>
    if apart.contains other then apart.erase other else apart.insert other .none) entries).keys

/-- What a reader sees of entries. -/
def reading (entries : Entries) : Reading :=
  ⟨.ok entries.keys, .ok entries.size, entries.find?⟩

end Entries

theorem proper_foldl {g : Entries → Value → Entries}
    (hg : ∀ entries v, v.Hashable → entries.Proper → (g entries v).Proper)
    (hothers : ∀ v ∈ others, v.Hashable) (hentries : entries.Proper) :
    (others.foldl g entries).Proper := by
  induction others generalizing entries with
  | nil => exact hentries
  | cons v rest ih =>
    obtain ⟨hv, hrest⟩ := List.forall_mem_cons.mp hothers
    exact ih hrest (hg entries v hv hentries)

theorem contains_foldl_insert_if (met : Entries) (k : Value) :
    (others.foldl (fun met other => if entries.contains other then met.insert other .none else met)
      met).contains k = (met.contains k || (entries.contains k && others.any (· == k))) := by
  induction others generalizing met with
  | nil => simp
  | cons v rest ih =>
    rw [List.foldl_cons, ih, List.any_cons]
    cases hsame : v == k with
    | true =>
      rw [Table.contains_congr hsame]
      cases hk : entries.contains k <;> simp [contains_insert, hsame]
    | false => split_ifs <;> simp [contains_insert, hsame]

theorem contains_foldl_erase (left : Entries) (k : Value) :
    (others.foldl (fun left other => left.erase other) left).contains k =
      (left.contains k && !others.any (· == k)) := by
  induction others generalizing left with
  | nil => simp
  | cons v rest ih =>
    rw [List.foldl_cons, ih, contains_erase, List.any_cons]
    cases v == k <;> simp

/-- Each element changes once whether it is there. -/
theorem contains_foldl_toggle (hdistinct : others.Pairwise fun a b => (a == b) = false)
    (apart : Entries) (k : Value) :
    (others.foldl (fun apart other =>
      if apart.contains other then apart.erase other else apart.insert other .none)
      apart).contains k = (apart.contains k != others.any (· == k)) := by
  induction others generalizing apart with
  | nil => simp
  | cons v rest ih =>
    obtain ⟨hv, hrest⟩ := List.pairwise_cons.mp hdistinct
    rw [List.foldl_cons, ih hrest, List.any_cons]
    cases hsame : v == k with
    | true =>
      -- The same element does not come again.
      have hnone : rest.any (· == k) = false := by
        rw [List.any_eq_false]
        intro other hother
        rw [← BEq.congr_right hsame, BEq.comm, hv other hother]
        exact Bool.false_ne_true
      have hcontains : apart.contains v = apart.contains k := Table.contains_congr hsame apart
      rw [hnone, hcontains]
      cases hk : apart.contains k <;> simp [contains_insert, contains_erase, hsame]
    | false => split_ifs <;> simp [contains_insert, contains_erase, hsame]

theorem collects_keysMet (entries : Entries) (others : List Value) :
    Collects others (fun k => entries.contains k && others.any (· == k))
      (entries.keysMet others) := by
  -- Elements are looked up one after another, so it is the first that cannot be a key that fails.
  have hfold := foldlM_eq_of_checked others .empty
    (f := fun met other => do
      match ← entries.find? other with
      | some _ => met.put other .none
      | none => return met)
    (g := fun met other => if entries.contains other then met.insert other .none else met)
    (fun met v hv => by
      rw [Entries.find?_of_hashable hv, ← Table.isSome_get?]
      cases entries.get? v with
      | none => rfl
      | some found => simp [Entries.put, show v.unhashable? = none from hv])
    (fun met v kind hv => by rw [Entries.find?_of_unhashable hv]; rfl)
  refine ⟨_, ?_, fun hothers => ⟨proper_foldl (fun met v hv hmet => ?_) hothers Table.proper_empty,
    fun k => contains_foldl_insert_if .empty k⟩⟩
  · rw [Entries.keysMet, hfold]
    cases checkKeys others <;> rfl
  · split_ifs
    · exact hmet.insert hv.beq_self _
    · exact hmet

theorem collects_keysJoined (hentries : entries.Proper) (others : List Value) :
    Collects others (fun k => entries.contains k || others.any (· == k))
      (entries.keysJoined others) := by
  refine ⟨entries.insertAll (others.map fun v => (v, .none)), ?_, fun hothers => ⟨?_, fun k => ?_⟩⟩
  · rw [Entries.keysJoined, Entries.putAll_eq, map_fst_pairs]
    cases checkKeys others <;> rfl
  · exact proper_insertAll hentries (by rwa [map_fst_pairs])
  · rw [contains_insertAll, List.any_map]
    rfl

theorem collects_keysLeft (hentries : entries.Proper) (others : List Value) :
    Collects others (fun k => entries.contains k && !others.any (· == k))
      (entries.keysLeft others) := by
  -- Looking an element up comes to nothing but the failure, if it cannot be a key.
  have hfold := foldlM_eq_of_checked others entries
    (f := fun left other => do
      let _ ← left.find? other
      return left.erase other)
    (g := fun left other => left.erase other)
    (fun left v hv => by rw [Entries.find?_of_hashable hv]; rfl)
    (fun left v kind hv => by rw [Entries.find?_of_unhashable hv]; rfl)
  refine ⟨_, ?_, fun hothers =>
    ⟨proper_foldl (fun left v _ hleft => hleft.erase v) hothers hentries,
      contains_foldl_erase entries⟩⟩
  rw [Entries.keysLeft, hfold]
  cases checkKeys others <;> rfl

theorem collects_keysApart (hentries : entries.Proper) (others : List Value) :
    Collects others (fun k => entries.contains k != others.any (· == k))
      (entries.keysApart others) := by
  refine ⟨(asKeys others).keys.foldl (fun apart other =>
    if apart.contains other then apart.erase other else apart.insert other .none) entries,
    ?_, fun hothers => ⟨?_, fun k => ?_⟩⟩
  · rw [Entries.keysApart, keySet_eq]
    cases checkKeys others <;> rfl
  · -- The others are taken as keys first, so that none of them comes twice.
    refine proper_foldl (fun apart v hv hapart => ?_)
      (hashable_of_proper (proper_asKeys hothers)) hentries
    split_ifs
    · exact hapart.erase v
    · exact hapart.insert hv.beq_self _
  · rw [contains_foldl_toggle (proper_asKeys hothers).distinct, ← contains_eq_any,
      contains_asKeys]

/-! ### What a reader does -/

theorem has_of_hashable (hk : k.Hashable) (entries : Entries) :
    entries.reading.has k = .ok (entries.contains k) := by
  have hfind : entries.reading.find? k = .ok (entries.get? k) :=
    Entries.find?_of_hashable hk entries
  rw [Reading.has, hfind, ← Table.isSome_get?]
  rfl

theorem has_of_unhashable {kind : String} (hk : k.unhashable? = some kind) (entries : Entries) :
    entries.reading.has k = .error (.unhashable kind) := by
  have hfind : entries.reading.find? k = .error (.unhashable kind) :=
    Entries.find?_of_unhashable hk entries
  rw [Reading.has, hfind]
  rfl

/-- Choosing among values by what they are as keys. -/
theorem any_filter_of_congr {q : Value → Bool} (hq : ∀ a b, (a == b) = true → q a = q b)
    (values : List Value) (k : Value) :
    (values.filter q).any (· == k) = (q k && values.any (· == k)) := by
  induction values with
  | nil => simp
  | cons v rest ih =>
    rw [List.filter_cons, List.any_cons]
    cases hsame : v == k with
    | true =>
      rw [hq v k hsame]
      cases hk : q k <;> simp_all
    | false => cases hv : q v <;> simp [ih, hsame]

theorem distinct_of_hashable (hvalues : ∀ v ∈ values, v.Hashable) :
    distinct values = .ok (asKeys values).keys := by
  rw [distinct_eq, checkKeys_eq_ok_iff.mpr hvalues]
  rfl

theorem collects_meet (entries : Entries) (others : List Value) :
    Collects others (fun k => entries.contains k && others.any (· == k))
      (entries.reading.meet others) := by
  have hfilter : others.filterM entries.reading.has =
      (checkKeys others).map fun _ => others.filter entries.contains :=
    filterM_eq_of_checked others (fun v hv => has_of_hashable hv entries)
      fun v kind hv => has_of_unhashable hv entries
  -- Those that pass can be keys, so they are told apart without a failure.
  have hmeet : entries.reading.meet others =
      (checkKeys others).map fun _ => (asKeys (others.filter entries.contains)).keys := by
    rw [Reading.meet, hfilter]
    cases hcheck : checkKeys others with
    | error failure => rfl
    | ok =>
      exact distinct_of_hashable fun v hv =>
        checkKeys_eq_ok_iff.mp hcheck v (List.mem_of_mem_filter hv)
  rw [hmeet]
  refine (collects_asKeys fun hothers v hv => hothers v (List.mem_of_mem_filter hv)).congr ?_
  exact any_filter_of_congr (fun a b hsame => Table.contains_congr hsame entries) others

theorem collects_join (hentries : entries.Proper) (others : List Value) :
    Collects others (fun k => entries.contains k || others.any (· == k))
      (entries.reading.join others) := by
  -- The keys of the entries pass the check, so it is the others that decide about it.
  have hjoin : entries.reading.join others =
      (checkKeys others).map fun _ => (asKeys (entries.keys ++ others)).keys := by
    rw [← checkKeys_append_of_hashable (hashable_of_proper hentries)]
    exact distinct_eq (entries.keys ++ others)
  rw [hjoin]
  refine (collects_asKeys fun hothers => ?_).congr fun k => ?_
  · exact List.forall_mem_append.mpr ⟨hashable_of_proper hentries, hothers⟩
  · rw [List.any_append, contains_eq_any]

/-- A reader leaves out of its keys those that are in a collection. -/
theorem without_eq (hentries : entries.Proper) (collected : Entries) :
    entries.reading.without collected =
      .ok (asKeys (entries.keys.filter fun k => !collected.contains k)).keys := by
  have hkeys := hashable_of_proper hentries
  -- The keys that are asked about come from entries, so each can be looked up.
  have hfilter : (entries.keys.filterM fun k => do return (← collected.find? k).isNone) =
      .ok (entries.keys.filter fun k => !collected.contains k) := by
    have hchecked := filterM_eq_of_checked entries.keys
      (p := fun k => do return (← collected.find? k).isNone) (q := fun k => !collected.contains k)
      (fun v hv => by
        rw [Entries.find?_of_hashable hv, ← Table.isSome_get?]
        cases collected.get? v <;> rfl)
      (fun v kind hv => by rw [Entries.find?_of_unhashable hv]; rfl)
    rw [hchecked, checkKeys_eq_ok_iff.mpr hkeys]
    rfl
  have hwithout : entries.reading.without collected =
      (entries.keys.filterM fun k => do return (← collected.find? k).isNone) >>= distinct := rfl
  rw [hwithout, hfilter]
  exact distinct_of_hashable fun v hv => hkeys v (List.mem_of_mem_filter hv)

/-- A key is left over if it is not in the collection. -/
theorem any_without (entries collected : Entries) (k : Value) :
    (entries.keys.filter fun k => !collected.contains k).any (· == k) =
      (entries.contains k && !collected.contains k) := by
  rw [any_filter_of_congr (fun a b hsame => by rw [Table.contains_congr hsame]), ← contains_eq_any,
    Bool.and_comm]

theorem collects_minus (hentries : entries.Proper) (others : List Value) :
    Collects others (fun k => entries.contains k && !others.any (· == k))
      (entries.reading.minus others) := by
  have hminus : entries.reading.minus others = (checkKeys others).map fun _ =>
      (asKeys (entries.keys.filter fun k => !(asKeys others).contains k)).keys := by
    rw [Reading.minus, keySet_eq]
    cases checkKeys others with
    | error failure => rfl
    | ok => exact without_eq hentries (asKeys others)
  rw [hminus]
  refine (collects_asKeys fun _ v hv => ?_).congr fun k => ?_
  · exact hashable_of_proper hentries v (List.mem_of_mem_filter hv)
  · rw [any_without, contains_asKeys]

/-- The elements of a collection that are no keys. -/
theorem filterM_not_has_eq {collected : Entries} (hcollected : collected.Proper)
    (entries : Entries) :
    (collected.keys.filterM fun k => do return !(← entries.reading.has k)) =
      .ok (collected.keys.filter fun k => !entries.contains k) := by
  have hchecked := filterM_eq_of_checked collected.keys
    (p := fun k => do return !(← entries.reading.has k)) (q := fun k => !entries.contains k)
    (fun v hv => by rw [has_of_hashable hv]; rfl)
    (fun v kind hv => by rw [has_of_unhashable hv]; rfl)
  rw [hchecked, checkKeys_eq_ok_iff.mpr (hashable_of_proper hcollected)]
  rfl

theorem collects_apart (hentries : entries.Proper) (others : List Value) :
    Collects others (fun k => entries.contains k != others.any (· == k))
      (entries.reading.apart others) := by
  -- The keys that are not among the others come first, and then the others that are no keys.
  let own := asKeys (entries.keys.filter fun k => !(asKeys others).contains k)
  let foreign := (asKeys others).keys.filter fun k => !entries.contains k
  have hown : own.Proper := proper_asKeys fun v hv =>
    hashable_of_proper hentries v (List.mem_of_mem_filter hv)
  have hforeign (hothers : ∀ v ∈ others, v.Hashable) : ∀ v ∈ foreign, v.Hashable := fun v hv =>
    hashable_of_proper (proper_asKeys hothers) v (List.mem_of_mem_filter hv)
  have hall (hothers : ∀ v ∈ others, v.Hashable) : ∀ v ∈ own.keys ++ foreign, v.Hashable :=
    List.forall_mem_append.mpr ⟨hashable_of_proper hown, hforeign hothers⟩
  have hapart : entries.reading.apart others =
      (checkKeys others).map fun _ => (asKeys (own.keys ++ foreign)).keys := by
    rw [Reading.apart, keySet_eq]
    cases hcheck : checkKeys others with
    | error failure => rfl
    | ok =>
      have hothers := checkKeys_eq_ok_iff.mp hcheck
      simp only [Except.map, ok_bind, without_eq hentries,
        filterM_not_has_eq (proper_asKeys hothers)]
      exact distinct_of_hashable (hall hothers)
  rw [hapart]
  refine (collects_asKeys hall).congr fun k => ?_
  rw [List.any_append, ← contains_eq_any, contains_asKeys, any_without, any_without,
    contains_asKeys]
  cases entries.contains k <;> cases others.any (· == k) <;> rfl

/-! ### Both come to the same -/

namespace Entries

/-- **The elements that are keys** are the same for a reader and a dictionary. -/
theorem meet_same (entries : Entries) (others : List Value) :
    SameCollection (entries.reading.meet others) (entries.keysMet others) :=
  (collects_meet entries others).same (collects_keysMet entries others)

/-- **Keys and elements together** are the same for a reader and a dictionary. -/
theorem join_same (hentries : entries.Proper) (others : List Value) :
    SameCollection (entries.reading.join others) (entries.keysJoined others) :=
  (collects_join hentries others).same (collects_keysJoined hentries others)

/-- **The keys without the elements** are the same for a reader and a dictionary. -/
theorem minus_same (hentries : entries.Proper) (others : List Value) :
    SameCollection (entries.reading.minus others) (entries.keysLeft others) :=
  (collects_minus hentries others).same (collects_keysLeft hentries others)

/-- **What is only a key or only an element** is the same for a reader and a dictionary. -/
theorem apart_same (hentries : entries.Proper) (others : List Value) :
    SameCollection (entries.reading.apart others) (entries.keysApart others) :=
  (collects_apart hentries others).same (collects_keysApart hentries others)

end Entries

end BoundedVars
