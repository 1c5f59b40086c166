import BoundedVars.Proofs.Comparing
import BoundedVars.Proofs.LayerKeys
import BoundedVars.Proofs.View

/-!
# A view reads like the dictionary that it copies

A view puts all its answers together from three: what its keys are, how many there are, and what
stands under a key.  A dictionary has ways of its own (`Entries.keysMet` and the others,
`Entries.hasValue`, `Heap.dictKeysAre`), and they come to the same (`Heap.ReadsLike`).

Only comparing them with a third value is different.  A dictionary leaves the comparison to any
other kind of mapping, so with a view the entries of one side may be gone through first and with the
dictionary those of the other side.  Besides, a view takes up more of the depth to which values are
followed.  Where nothing fails none of that makes a difference (`Heap.ComparesLike`), and so a view
reads like the dictionary that it copies (`Heap.Sound.viewMatches`); where something does, it can
make one (`Heap.view_compares_unlike_dict`).
-/

namespace BoundedVars

open Except

variable {h : Heap} {v d m value : Value} {entries others : Entries} {serial address : Nat}
  {attributed : Bool}

/-! ### What a dictionary answers -/

namespace Entries

variable (entries)

/-- One of the values is the same as `value`, as far as `same` tells. -/
def hasValue (same : Value → Value → Except Failure Bool) (value : Value) : Except Failure Bool :=
  entries.values.anyM fun found => same found value

/-- The value under a key is the same as `value`, as far as `same` tells. -/
def hasItem (same : Value → Value → Except Failure Bool) (key value : Value) :
    Except Failure Bool := do
  match ← entries.find? key with
  | some found => same found value
  | none => return false

/-- There are no more keys than another mapping has, and it contains all of them. -/
def keysWithin (h : Heap) (other : Value) : Except Failure Bool := do
  if entries.size ≤ (← h.length other) then entries.keys.allM (h.contains other) else return false

/-- No element of a list is a key. -/
def keysDisjoint : List Value → Except Failure Bool
  | [] => .ok true
  | other :: rest => do
    if (← entries.find? other).isSome then return false else keysDisjoint rest

end Entries

/-- The keys of a dictionary are those of another mapping.  Another dictionary is asked whether it
contains them; from any other mapping the keys are taken, and the dictionary is asked. -/
def Heap.dictKeysAre (h : Heap) (d m : Value) : Except Failure Bool :=
  match m with
  | .dict .. => (h.reading d).sameKeys h m
  | m => (h.reading m).sameKeys h d

/-! ### Reading entries -/

theorem item_reading (hentries : entries.Proper) {e : Value × Value}
    (he : e ∈ entries.entries) : entries.reading.item e.1 = .ok e.2 := by
  have hkey : e.1.Hashable := hashable_of_proper hentries e.1 (Table.mem_keys_of_mem he)
  have hfind : entries.reading.find? e.1 = .ok (some e.2) := by
    rw [← hentries.get?_of_mem he]
    exact Entries.find?_of_hashable hkey entries
  rw [Reading.item, hfind]
  rfl

theorem values_reading (hentries : entries.Proper) :
    entries.reading.values = .ok entries.values := by
  have hvalues : entries.keys.mapM entries.reading.item = .ok entries.values := by
    rw [Table.keys, List.mapM_map]
    exact mapM_eq_ok fun e he => item_reading hentries he
  exact hvalues

theorem entries_reading (hentries : entries.Proper) :
    entries.reading.entries = .ok entries.entries := by
  have hall : (entries.keys.mapM fun key => do return (key, ← entries.reading.item key)) =
      .ok entries.entries := by
    rw [Table.keys, List.mapM_map, mapM_eq_ok fun e he => ?_, List.map_id]
    rw [Function.comp_apply, item_reading hentries he]
    rfl
  exact hall

theorem hasValue_reading (hentries : entries.Proper)
    (same : Value → Value → Except Failure Bool) (value : Value) :
    entries.reading.hasValue same value = entries.hasValue same value := by
  have hany : (entries.keys.anyM fun key => do same (← entries.reading.item key) value) =
      entries.hasValue same value :=
    anyM_map_congr fun e he => by rw [item_reading hentries he, ok_bind]
  exact hany

/-- What looking for a value comes to is what comparing the values comes to. -/
theorem exists_settles_hasValue (h : Heap) (entries : Entries) (value : Value) :
    ∃ said, Settles (fun levels depth => entries.hasValue (h.sameAt levels depth) value) said := by
  choose said hsaid using fun found => Heap.exists_settles_sameAt h found value
  exact ⟨_, Settles.anyM hsaid entries.values⟩

theorem exists_settles_hasItem (h : Heap) (entries : Entries) (key value : Value) :
    ∃ said,
      Settles (fun levels depth => entries.hasItem (h.sameAt levels depth) key value) said := by
  -- Only where there is something under the key something is compared.
  have hsettled (said : Except Failure Bool) : Settles (fun _ _ => said) said :=
    ⟨fun _ _ => .refl said, fun _ => ⟨0, fun _ _ => rfl⟩⟩
  unfold Entries.hasItem
  cases entries.find? key with
  | error failure => exact ⟨_, hsettled (.error failure)⟩
  | ok found? =>
    cases found? with
    | none => exact ⟨_, hsettled (.ok false)⟩
    | some found => exact Heap.exists_settles_sameAt h found value

theorem disjoint_reading (entries : Entries) (others : List Value) :
    entries.reading.disjoint others = entries.keysDisjoint others := by
  induction others with
  | nil => rfl
  | cons other rest ih =>
    have hfind : entries.reading.find? other = entries.find? other := rfl
    rw [Reading.disjoint, Entries.keysDisjoint, ih, Reading.has, hfind]
    cases entries.find? other <;> rfl

namespace Heap

/-! ### A view and its dictionary -/

/-- What shows the items of entries offers a reader what the entries offer. -/
theorem Shows.reading_eq (hshows : h.Shows v entries.entries) : h.reading v = entries.reading :=
  congr (congr (congrArg Reading.mk hshows.keys) hshows.size) (funext hshows.find?)

theorem shows_dict (h : Heap) (attributed : Bool) (address : Nat) :
    h.Shows (.dict attributed address) (h.dict address).entries where
  keys := elementsWithin_dict h.reach attributed address
  size := by
    rw [reading, length]
    cases h.reach <;> rfl
  find? key := by
    change h.findWithin h.reach (.dict attributed address) key = _
    cases h.reach <;> rfl
  contents := rfl

/-- To a reader a dictionary offers its entries. -/
theorem reading_dict (h : Heap) (attributed : Bool) (address : Nat) :
    h.reading (.dict attributed address) = (h.dict address).reading :=
  (shows_dict h attributed address).reading_eq

theorem reading_view (hkept : h.replacement? serial = none) (entries : Entries) :
    h.reading (.view serial entries.entries) = entries.reading :=
  (shows_view hkept entries.entries).reading_eq

/-- Whether a dictionary counts as true can be told from its size. -/
theorem isTruthy_dict (h : Heap) (attributed : Bool) (address : Nat) :
    h.isTruthy (.dict attributed address) =
      (do return (← (h.reading (.dict attributed address)).size) != 0) := by
  rw [isTruthy, reading, length]
  cases h.reach <;> rfl

theorem isTruthy_view (h : Heap) (serial : Nat) (entries : List (Value × Value)) :
    h.isTruthy (.view serial entries) =
      (do return (← (h.reading (.view serial entries)).size) != 0) := by
  rw [isTruthy, reading, length]
  cases h.reach <;> rfl

theorem contains_dict (h : Heap) (attributed : Bool) (address : Nat) (key : Value) :
    h.contains (.dict attributed address) key = (h.dict address).reading.has key := by
  rw [contains]
  cases h.reach <;> rfl

/-! ### The same keys -/

theorem sameKeys_eq {r : Reading} (hkeys : r.keys = .ok entries.keys)
    (hsize : r.size = .ok entries.size) (hentries : entries.Proper)
    (hlength : h.length m = .ok others.size)
    (hcontains : ∀ k, k.Hashable → h.contains m k = .ok (others.contains k)) :
    r.sameKeys h m = .ok (entries.size == others.size && entries.keys.all others.contains) := by
  have hall : entries.keys.allM (h.contains m) = .ok (entries.keys.all others.contains) :=
    allM_eq_ok fun k hk => hcontains k (hashable_of_proper hentries k hk)
  simp only [Reading.sameKeys, Reading.within, hkeys, hsize, hlength, ok_bind]
  by_cases heq : entries.size = others.size
  · rw [if_pos heq, if_pos heq.le, hall, beq_iff_eq.mpr heq, Bool.true_and]
  · rw [if_neg heq, beq_eq_false_iff_ne.mpr heq, Bool.false_and]
    rfl

theorem Sound.listsKeys_dict (hsound : h.Sound) (attributed : Bool) (address : Nat) :
    h.ListsKeys (.dict attributed address) (h.dict address) := by
  have hreading := reading_dict h attributed address
  refine ⟨(hsound.dict address).proper, congrArg Reading.keys hreading,
    congrArg Reading.size hreading, fun k hk => ?_⟩
  rw [contains_dict, has_of_hashable hk]

/-- **It makes no difference whose keys are looked for**, those of the other mapping in the
dictionary or those of the dictionary in the other mapping, if this contains the keys that it
lists. -/
theorem Sound.dictKeysAre_eq (hsound : h.Sound) {keys : Entries} (hm : h.ListsKeys m keys)
    (attributed : Bool) (address : Nat) :
    h.dictKeysAre (.dict attributed address) m = (h.dict address).reading.sameKeys h m := by
  obtain ⟨hdict, -, hlength, hcontains⟩ := hsound.listsKeys_dict attributed address
  obtain ⟨hkeys, helements, hsize, hhas⟩ := hm
  have hreversed : (h.reading m).sameKeys h (.dict attributed address) =
      (h.dict address).reading.sameKeys h m := by
    rw [sameKeys_eq helements hsize hkeys hlength hcontains,
      sameKeys_eq rfl rfl hdict hsize hhas, hkeys.all_contains_comm hdict]
  cases m with
  | dict => rw [dictKeysAre, reading_dict]
  | _ => exact hreversed

/-- It makes no difference whose keys are looked for if the other mapping has no length. -/
theorem dictKeysAre_of_fails {failure : Failure} (hm : h.length m = .error failure)
    (attributed : Bool) (address : Nat) :
    h.dictKeysAre (.dict attributed address) m = (h.dict address).reading.sameKeys h m := by
  have hreversed : (h.reading m).sameKeys h (.dict attributed address) =
      (h.dict address).reading.sameKeys h m := by
    have hsize : (h.reading m).size = .error failure := hm
    have hown : (h.dict address).reading.size = .ok (h.dict address).size := rfl
    simp only [Reading.sameKeys, hsize, hown, hm, ok_bind, error_bind]
  cases m with
  | dict => rw [dictKeysAre, reading_dict]
  | _ => exact hreversed

/-! ### Copies -/

/-- A mapping has these entries, and they are sound. -/
structure HasEntries (h : Heap) (v : Value) (entries : Entries) : Prop where
  isMapping : v.isMapping = true
  sound : v.Sound
  contents : h.contents v = .ok entries

theorem Sound.hasEntries_dict (hsound : h.Sound) (attributed : Bool) (address : Nat) :
    h.HasEntries (.dict attributed address) (h.dict address) ∧ (h.dict address).Sound :=
  ⟨⟨rfl, Value.sound_dict attributed address, rfl⟩, hsound.dict address⟩

theorem hasEntries_view (hkept : h.replacement? serial = none) (hentries : entries.Sound) :
    h.HasEntries (.view serial entries.entries) entries :=
  ⟨rfl, Value.sound_view_iff.mpr hentries, (shows_view hkept entries.entries).contents⟩

/-- Writing the entries of a mapping to a new table gives its entries. -/
theorem Sound.putEntries_of_hasEntries (hsound : h.Sound) (hv : h.HasEntries v entries) :
    h.putEntries .empty v = .ok entries := by
  rw [Heap.putEntries, if_pos hv.isMapping, hv.contents]
  exact (hsound.contents hv.sound hv.contents).putAll_entries

/-- A copy of a mapping has its entries, also if there are none. -/
theorem Sound.copyEntries_of_hasEntries (hsound : h.Sound) (hv : h.HasEntries v entries)
    (htruth : h.isTruthy v = (do return (← entries.reading.size) != 0)) :
    h.copyEntries v = .ok entries := by
  rw [Heap.copyEntries, htruth, hsound.putEntries_of_hasEntries hv]
  obtain ⟨entries⟩ := entries
  cases entries <;> rfl

/-! ### Comparing mappings -/

section

variable {same : Value → Value → Except Failure Bool}

/-- A mapping equals nothing but mappings, whatever is the same. -/
theorem compareBy_of_not_isMapping (hv : v.isMapping = true) (hm : m.isMapping = false)
    (hne : m.identity ≠ v.identity) :
    h.compareBy same v m = .ok false ∧ h.compareBy same m v = .ok false := by
  have hcontent : m.content ≠ .mapping := fun hcontent => by
    rw [Value.isMapping_of_content hcontent] at hm
    cases hm
  rw [compareBy, compareBy, Value.content_of_isMapping hv]
  cases hcm : m.content <;> simp_all [Ne.symm hne]

/-- What is no mapping is no dictionary. -/
theorem identity_ne_dict (hm : m.isMapping = false) (attributed : Bool) (address : Nat) :
    m.identity ≠ (Value.dict attributed address).identity := by
  cases m with
  | bytes | tuple =>
    rw [Value.identity, Value.identity]
    split_ifs <;> exact Identity.noConfusion
  | dict | view | config => cases hm
  | _ => exact Identity.noConfusion

/-- Comparing a mapping with another one depends on its entries only. -/
theorem compareBy_congr (same : Value → Value → Except Failure Bool) (hv : h.HasEntries v entries)
    (hd : h.HasEntries d entries) (hm : m.isMapping = true) :
    h.compareBy same v m = h.compareBy same d m ∧ h.compareBy same m v = h.compareBy same m d := by
  rw [compareBy_of_isMapping hv.isMapping hm, compareBy_of_isMapping hd.isMapping hm,
    compareBy_of_isMapping hm hv.isMapping, compareBy_of_isMapping hm hd.isMapping, hv.contents,
    hd.contents]
  exact ⟨rfl, rfl⟩

/-- A mapping whose entries cannot be had cannot be compared with one. -/
theorem compareBy_of_failing {failure : Failure} (hv : h.HasEntries v entries)
    (hm : m.isMapping = true) (hem : h.contents m = .error failure) :
    h.compareBy same v m = .error failure ∧ h.compareBy same m v = .error failure := by
  rw [compareBy_of_isMapping hv.isMapping hm, compareBy_of_isMapping hm hv.isMapping, hv.contents,
    hem]
  exact ⟨rfl, rfl⟩

/-- Mappings with the same entries are equal, in whatever order these are. -/
theorem Sound.compareBy_of_perm (hsound : h.Sound) (hv : h.HasEntries v entries)
    (hm : h.HasEntries m others) (hperm : entries.entries.Perm others.entries)
    (hself : ∀ value, same value value = .ok true) :
    h.compareBy same v m = .ok true ∧ h.compareBy same m v = .ok true := by
  have hentries := (hsound.contents hv.sound hv.contents).proper
  have hothers := (hsound.contents hm.sound hm.contents).proper
  rw [compareBy_of_isMapping hv.isMapping hm.isMapping,
    compareBy_of_isMapping hm.isMapping hv.isMapping, hv.contents, hm.contents]
  exact ⟨Entries.compareBy_self hentries (fun value _ => hself value) hperm,
    Entries.compareBy_self hothers (fun value _ => hself value) hperm.symm⟩

end

section

variable {levels : Value → Nat} {depth : Nat} {said : Except Failure Bool}

theorem sameAt_self (h : Heap) (levels : Value → Nat) (depth : Nat) (v : Value) :
    h.sameAt levels depth v v = .ok true :=
  if_pos rfl

/-- What two values say of each other, whoever compares and whatever is the same, is what a
comparison says for which there is room. -/
theorem equalAt_eq_of_compareBy (hroom : ∀ w, levels w < depth)
    (hcompare : ∀ rest, h.compareBy (h.sameAt levels rest) v m = said ∧
      h.compareBy (h.sameAt levels rest) m v = said) :
    h.equalAt levels depth v m = said ∧ h.equalAt levels depth m v = said := by
  obtain ⟨rest, hforth⟩ := exists_equalAt_eq (h := h) (hroom (v.comparer m))
  obtain ⟨rest', hback⟩ := exists_equalAt_eq (h := h) (hroom (m.comparer v))
  rw [hforth, hback, (hcompare rest).1, (hcompare rest).2, (hcompare rest').1, (hcompare rest').2,
    ite_self, ite_self]
  exact ⟨rfl, rfl⟩

end

/-- Mappings with the same entries are equal to the same. -/
theorem Sound.agree_of_hasEntries (hsound : h.Sound) (hv : h.HasEntries v entries)
    (hd : h.HasEntries d entries) (hm : m.isMapping = true) (hms : m.Sound) (depth : Nat) :
    Agree (h.equalIn depth v m) (h.equalIn depth d m) ∧
      Agree (h.equalIn depth m v) (h.equalIn depth m d) := by
  cases depth with
  | zero => exact ⟨.refl _, .refl _⟩
  | succ depth =>
    have hcompare := (compareBy_congr (h.sameIn depth) hv hd hm).1
    have hvm := (hsound.equalIn_agree hv.sound hms depth).1
    have hdm := (hsound.equalIn_agree hd.sound hms depth).1
    have hmv := (hsound.equalIn_agree hms hv.sound depth).2
    have hmd := (hsound.equalIn_agree hms hd.sound depth).2
    rw [hcompare] at hvm hmv
    exact ⟨hvm.trans hdm.symm, hmv.trans hmd.symm⟩

/-- The order of the entries of a mapping makes no difference to what equals it. -/
theorem Sound.agree_of_perm {m' : Value} {others' : Entries} (hsound : h.Sound)
    (hv : h.HasEntries v entries) (hm : h.HasEntries m others) (hm' : h.HasEntries m' others')
    (hperm : others.entries.Perm others'.entries) (depth : Nat) :
    Agree (h.equalIn depth v m) (h.equalIn depth v m') := by
  cases depth with
  | zero => exact .refl _
  | succ depth =>
    have hcompare : h.compareBy (h.sameIn depth) v m' = h.compareBy (h.sameIn depth) v m := by
      rw [compareBy_of_isMapping hv.isMapping hm'.isMapping,
        compareBy_of_isMapping hv.isMapping hm.isMapping, hv.contents, hm.contents, hm'.contents]
      exact Entries.compareBy_perm (hsound.contents hm.sound hm.contents).proper hperm
    have hagree := (hsound.equalIn_agree hv.sound hm'.sound depth).1
    rw [hcompare] at hagree
    exact (hsound.equalIn_agree hv.sound hm.sound depth).1.trans hagree.symm

/-- At some depth, what stands under a common key can be compared, whichever one compares. -/
def ComparableIn (h : Heap) (depth : Nat) (entries others : Entries) : Prop :=
  ∀ key value other, entries.get? key = some value → others.get? key = some other →
    (∃ answer, h.sameIn depth value other = .ok answer) ∧
      ∃ answer, h.sameIn depth other value = .ok answer

theorem ComparableIn.symm {depth : Nat} (hcomparable : h.ComparableIn depth entries others) :
    h.ComparableIn depth others entries :=
  fun key value other hvalue hother => (hcomparable key other value hother hvalue).symm

/-- Where values under common keys can be compared, there is an answer. -/
theorem Sound.exists_equalIn_eq_ok (hsound : h.Sound) (hv : h.HasEntries v entries)
    (hm : h.HasEntries m others) {depth : Nat} (hcomparable : h.ComparableIn depth entries others) :
    ∃ answer, h.equalIn (depth + 1) v m = .ok answer := by
  have hforth : ∃ answer, h.compareBy (h.sameIn depth) v m = .ok answer := by
    rw [compareBy_of_isMapping hv.isMapping hm.isMapping, hv.contents, hm.contents]
    have hentries := (hsound.contents hv.sound hv.contents).proper
    exact Entries.exists_compareBy_eq_ok hentries fun key value other hvalue hother =>
      (hcomparable key value other hvalue hother).1
  have hback : ∃ answer, h.compareBy (h.sameIn depth) m v = .ok answer := by
    rw [compareBy_of_isMapping hm.isMapping hv.isMapping, hv.contents, hm.contents]
    have hothers := (hsound.contents hm.sound hm.contents).proper
    exact Entries.exists_compareBy_eq_ok hothers fun key other value hother hvalue =>
      (hcomparable key value other hvalue hother).2
  rw [equalIn_succ]
  split_ifs
  · exact hback
  · exact hforth

/-- Something holds of either of two values and a third one, on either side. -/
def OnBothSides (p : Value → Value → Prop) (v d m : Value) : Prop :=
  (p v m ∧ p m v) ∧ p d m ∧ p m d

/-- If what stands under common keys can be compared, two mappings with the same entries give the
same answer, whoever compares. -/
theorem Sound.exists_equalIn_onBothSides (hsound : h.Sound) (hv : h.HasEntries v entries)
    (hd : h.HasEntries d entries) (hm : h.HasEntries m others) {depth : Nat}
    (hcomparable : h.ComparableIn depth entries others) :
    ∃ answer, OnBothSides (fun a b => h.equalIn (depth + 1) a b = .ok answer) v d m := by
  obtain ⟨hforth, hback⟩ := hsound.agree_of_hasEntries hv hd hm.isMapping hm.sound (depth + 1)
  obtain ⟨answer, hvm⟩ := hsound.exists_equalIn_eq_ok hv hm hcomparable
  -- Who compares makes no difference where both are answered.
  have hmv : h.equalIn (depth + 1) m v = .ok answer := by
    have hswap := hsound.equalIn_comm hm.sound hv.sound (depth + 1)
    rw [hswap.eq (hsound.exists_equalIn_eq_ok hm hv hcomparable.symm) ⟨answer, hvm⟩, hvm]
  have hdm : h.equalIn (depth + 1) d m = .ok answer := by
    rw [← hforth.eq ⟨answer, hvm⟩ (hsound.exists_equalIn_eq_ok hd hm hcomparable), hvm]
  have hmd : h.equalIn (depth + 1) m d = .ok answer := by
    rw [← hback.eq ⟨answer, hmv⟩ (hsound.exists_equalIn_eq_ok hm hd hcomparable.symm), hmv]
  exact ⟨answer, ⟨hvm, hmv⟩, hdm, hmd⟩

/-- What stands under a common key can be compared, whichever one compares: that comes to an
answer. -/
def Comparable (h : Heap) (entries others : Entries) : Prop :=
  ∀ key value other, entries.get? key = some value → others.get? key = some other →
    (∃ answer, Settles (fun levels depth => h.sameAt levels depth value other) (.ok answer)) ∧
      ∃ answer, Settles (fun levels depth => h.sameAt levels depth other value) (.ok answer)

/-- If what stands under common keys can be compared at all, there is a depth at which all of it
can. -/
theorem Comparable.exists_comparableIn (hentries : entries.Proper)
    (hcomparable : h.Comparable entries others) :
    ∃ depth, h.ComparableIn depth entries others := by
  have hnone (v : Value) : (fun _ : Value => 0) v ≤ 0 := Nat.le_refl 0
  -- Each pair of values has a depth of its own, and the greatest of these is enough for all.
  have heach : ∀ e ∈ entries.entries, ∃ enough, ∀ depth, enough ≤ depth →
      ∀ other, others.get? e.1 = some other → (∃ answer, h.sameIn depth e.2 other = .ok answer) ∧
        ∃ answer, h.sameIn depth other e.2 = .ok answer := by
    intro e he
    cases hother : others.get? e.1 with
    | none => exact ⟨0, fun _ _ _ => nofun⟩
    | some other =>
      obtain ⟨⟨a, hforth⟩, b, hback⟩ := hcomparable e.1 e.2 other (hentries.get?_of_mem he) hother
      obtain ⟨n, hn⟩ := hforth.settled hnone
      obtain ⟨k, hk⟩ := hback.settled hnone
      refine ⟨max n k, fun depth hdepth found hfound => ?_⟩
      obtain rfl := Option.some.inj hfound
      exact ⟨⟨a, hn depth (le_trans (le_max_left n k) hdepth)⟩,
        b, hk depth (le_trans (le_max_right n k) hdepth)⟩
  obtain ⟨depth, hdepth⟩ := exists_enough heach
  refine ⟨depth, fun key value other hvalue hother => ?_⟩
  obtain ⟨e, he, hkey, rfl⟩ := Table.exists_of_get? hvalue
  exact hdepth depth (Nat.le_refl depth) e he other ((Table.get?_congr hkey others).trans hother)

/-- Values that do not contain themselves can be compared at the depth at which they are nested. -/
theorem Sound.comparableIn_of_nested (hsound : h.Sound) (hentries : entries.Sound)
    (hothers : others.Sound) {depth : Nat}
    (hnested : ∀ value ∈ entries.values ++ others.values, h.NestedWithin depth value) :
    h.ComparableIn depth entries others := by
  obtain ⟨hne, hno⟩ := List.forall_mem_append.mp hnested
  intro key value other hvalue hother
  have hmem := Table.mem_values_of_get? hvalue
  have hmem' := Table.mem_values_of_get? hother
  have hv := hentries.values _ hmem
  have ho := hothers.values _ hmem'
  exact ⟨hsound.exists_sameIn_eq_ok hv ho (hne _ hmem) (hno _ hmem'),
    hsound.exists_sameIn_eq_ok ho hv (hno _ hmem') (hne _ hmem)⟩

/-! ### Reading like a dictionary -/

/-- Whatever is asked of it, a mapping answers what the dictionary with these entries answers. -/
structure ReadsLike (h : Heap) (v d : Value) (entries : Entries) : Prop where
  item : ∀ key, (h.reading v).item key = h.item d key
  get : ∀ key fallback, (h.reading v).get key fallback = h.get d key fallback
  has : ∀ key, (h.reading v).has key = h.contains d key
  size : (h.reading v).size = h.length d
  truth : h.isTruthy v = h.isTruthy d
  keys : (h.reading v).keys = h.elements d
  values : (h.reading v).values = .ok entries.values
  items : (h.reading v).entries = .ok entries.entries
  /-- Looking for a value comes to the same, at whatever depths it is looked for. -/
  hasValue : ∀ value, ∃ said,
    Settles (fun levels depth => (h.reading v).hasValue (h.sameAt levels depth) value) said ∧
      Settles (fun levels depth => entries.hasValue (h.sameAt levels depth) value) said
  hasItem : ∀ key value, ∃ said,
    Settles (fun levels depth => (h.reading v).hasItem (h.sameAt levels depth) key value) said ∧
      Settles (fun levels depth => entries.hasItem (h.sameAt levels depth) key value) said
  meet : ∀ others, SameCollection ((h.reading v).meet others) (entries.keysMet others)
  join : ∀ others, SameCollection ((h.reading v).join others) (entries.keysJoined others)
  minus : ∀ others, SameCollection ((h.reading v).minus others) (entries.keysLeft others)
  apart : ∀ others, SameCollection ((h.reading v).apart others) (entries.keysApart others)
  within : ∀ m, (h.reading v).within h m = entries.keysWithin h m
  /-- The other mapping contains what it lists, as every mapping made from mappings does, or it has
  no length. -/
  sameKeys : ∀ m, (h.Layered m ∧ m.Sound) ∨ (∃ keys, h.ListsKeys m keys) ∨
      (∃ failure, h.length m = .error failure) →
    (h.reading v).sameKeys h m = h.dictKeysAre d m
  disjoint : ∀ others, (h.reading v).disjoint others = entries.keysDisjoint others

/-- Compared with whatever value, on either side, a mapping comes out as the dictionary with these
entries does.  What a comparison comes to, it comes to at every depth and with whatever levels taken
up, unless it is cut short.  Where no values under common keys are looked at, it is not cut short
wherever there is room for a single comparison. -/
structure ComparesLike (h : Heap) (v d : Value) (entries : Entries) : Prop where
  /-- All comparisons come to something. -/
  comes : ∀ a b, ∃ said, h.ComesTo a b said
  /-- Neither equals anything but mappings. -/
  different : ∀ m, m.isMapping = false → m.identity ≠ v.identity →
    ∀ levels depth, (∀ w, levels w < depth) →
      OnBothSides (fun a b => h.equalAt levels depth a b = .ok false) v d m
  /-- They equal the same mappings. -/
  agree : ∀ m, m.isMapping = true → m.Sound →
    (h.ComesTo v m (.ok true) ↔ h.ComesTo d m (.ok true)) ∧
      (h.ComesTo m v (.ok true) ↔ h.ComesTo m d (.ok true))
  /-- If both are answered, the answers are the same. -/
  answers : ∀ m, m.isMapping = true → m.Sound → ∀ a b,
    (h.ComesTo v m (.ok a) → h.ComesTo d m (.ok b) → a = b) ∧
      (h.ComesTo m v (.ok a) → h.ComesTo m d (.ok b) → a = b)
  /-- They fail alike where the entries of the other cannot be had. -/
  failing : ∀ m failure, m.isMapping = true → h.contents m = .error failure →
    ∀ levels depth, (∀ w, levels w < depth) →
      OnBothSides (fun a b => h.equalAt levels depth a b = .error failure) v d m
  /-- If what stands under common keys can be compared, both are answered. -/
  answer : ∀ m others, h.HasEntries m others → h.Comparable entries others →
    ∃ answer, OnBothSides (fun a b => h.ComesTo a b (.ok answer)) v d m
  /-- If no value contains itself, both are answered, and the comparison is not cut short where the
  depth is great enough for the nesting. -/
  nested : ∀ m others nesting, h.HasEntries m others →
    (∀ value ∈ entries.values ++ others.values, h.NestedWithin nesting value) →
    ∃ answer, ∀ levels bound depth, (∀ w, levels w ≤ bound) →
      (nesting + 1) * (bound + 1) ≤ depth →
      OnBothSides (fun a b => h.equalAt levels depth a b = .ok answer) v d m
  /-- Compared with a plain dictionary, or by another mapping, they fail alike, too. -/
  plain : ∀ address said,
    h.ComesTo v (.dict false address) said ↔ h.ComesTo d (.dict false address) said
  other : ∀ m, m.isMapping = true → (∀ attributed address, m ≠ .dict attributed address) →
    ∀ said, h.ComesTo m v said ↔ h.ComesTo m d said
  /-- The order of the entries makes no difference. -/
  order : ∀ m m' others others', h.HasEntries m others → h.HasEntries m' others' →
    others.entries.Perm others'.entries →
    (h.ComesTo v m (.ok true) ↔ h.ComesTo v m' (.ok true)) ∧
      (h.ComesTo m v (.ok true) ↔ h.ComesTo m' v (.ok true))
  /-- A mapping with these entries, in whatever order, equals both. -/
  same : ∀ m others, h.HasEntries m others → entries.entries.Perm others.entries →
    ∀ levels depth, (∀ w, levels w < depth) →
      OnBothSides (fun a b => h.equalAt levels depth a b = .ok true) v d m

/-- What offers a reader the entries of a dictionary reads like the dictionary. -/
theorem readsLike_of_reading (hsound : h.Sound) {attributed : Bool} {address : Nat}
    (hreading : h.reading v = (h.dict address).reading)
    (htruth : h.isTruthy v = (do return (← (h.reading v).size) != 0)) :
    h.ReadsLike v (.dict attributed address) (h.dict address) := by
  have hproper := (hsound.dict address).proper
  have hdict := reading_dict h attributed address
  -- Other mappings have their keys looked for in the dictionary, but the answer is the same.
  have hsame (m : Value) (hm : (h.Layered m ∧ m.Sound) ∨ (∃ keys, h.ListsKeys m keys) ∨
      (∃ failure, h.length m = .error failure)) :
      h.dictKeysAre (.dict attributed address) m = (h.dict address).reading.sameKeys h m := by
    rcases hm with ⟨hm, hms⟩ | ⟨keys, hm⟩ | ⟨failure, hm⟩
    · obtain ⟨keys, hm⟩ := hsound.listsKeys_of_layered hm hms
      exact hsound.dictKeysAre_eq hm attributed address
    · exact hsound.dictKeysAre_eq hm attributed address
    · exact dictKeysAre_of_fails hm attributed address
  exact {
    item := fun key => by rw [hreading, ← hdict]; rfl
    get := fun key fallback => by rw [hreading, ← hdict]; rfl
    has := fun key => by rw [hreading, contains_dict]
    size := by rw [hreading, ← hdict]; rfl
    truth := by rw [htruth, hreading, isTruthy_dict, hdict]
    keys := by rw [hreading, ← hdict]; rfl
    values := by rw [hreading, values_reading hproper]
    items := by rw [hreading, entries_reading hproper]
    hasValue := fun value => by
      obtain ⟨said, hsaid⟩ := exists_settles_hasValue h (h.dict address) value
      simp only [hreading, hasValue_reading hproper]
      exact ⟨said, hsaid, hsaid⟩
    hasItem := fun key value => by
      obtain ⟨said, hsaid⟩ := exists_settles_hasItem h (h.dict address) key value
      rw [hreading]
      exact ⟨said, hsaid, hsaid⟩
    meet := fun others => by rw [hreading]; exact Entries.meet_same _ others
    join := fun others => by rw [hreading]; exact Entries.join_same hproper others
    minus := fun others => by rw [hreading]; exact Entries.minus_same hproper others
    apart := fun others => by rw [hreading]; exact Entries.apart_same hproper others
    within := fun m => by rw [hreading]; rfl
    sameKeys := fun m hm => by rw [hreading, hsame m hm]
    disjoint := fun others => by rw [hreading, disjoint_reading] }

/-- **Comparisons depend on the entries of a mapping only.** -/
theorem comparesLike_of_hasEntries (hsound : h.Sound) {address : Nat}
    (hv : h.HasEntries v (h.dict address)) (hdefers : ∀ w, v.defersTo w = false)
    (attributed : Bool) : h.ComparesLike v (.dict attributed address) (h.dict address) := by
  obtain ⟨hd, hentries⟩ := hsound.hasEntries_dict attributed address
  have hagree {m : Value} (hm : m.isMapping = true) (hms : m.Sound) :
      (h.ComesTo v m (.ok true) ↔ h.ComesTo (.dict attributed address) m (.ok true)) ∧
        (h.ComesTo m v (.ok true) ↔ h.ComesTo m (.dict attributed address) (.ok true)) :=
    ⟨comesTo_true_iff fun depth => (hsound.agree_of_hasEntries hv hd hm hms depth).1,
      comesTo_true_iff fun depth => (hsound.agree_of_hasEntries hv hd hm hms depth).2⟩
  refine { comes := exists_comesTo h
           different := fun m hm hne levels depth hroom => ?_
           agree := fun m hm hms => hagree hm hms
           answers := fun m hm hms a b => ?_
           failing := fun m failure hm hem levels depth hroom => ?_
           answer := fun m others hm hcomparable => ?_
           nested := fun m others nesting hm hnested => ?_
           plain := fun other said => comesTo_congr fun depth => ?_
           other := fun m hm hne said => comesTo_congr fun depth => ?_
           order := fun m m' others others' hm hm' hperm => ?_
           same := fun m others hm hperm levels depth hroom => ?_ }
  · -- What is no mapping is found unequal at once, whoever compares.
    have hned := identity_ne_dict hm attributed address
    exact ⟨equalAt_eq_of_compareBy hroom fun _ => compareBy_of_not_isMapping hv.isMapping hm hne,
      equalAt_eq_of_compareBy hroom fun _ => compareBy_of_not_isMapping hd.isMapping hm hned⟩
  · obtain ⟨hforth, hback⟩ := hagree hm hms
    exact ⟨fun ha hb => ComesTo.answers_eq hforth ha hb,
      fun ha hb => ComesTo.answers_eq hback ha hb⟩
  · exact ⟨equalAt_eq_of_compareBy hroom fun _ => compareBy_of_failing hv hm hem,
      equalAt_eq_of_compareBy hroom fun _ => compareBy_of_failing hd hm hem⟩
  · -- Values that can be compared at all can be compared at some depth, in both orders.
    obtain ⟨depth, hdepth⟩ := hcomparable.exists_comparableIn hentries.proper
    obtain ⟨answer, ⟨hvm, hmv⟩, hdm, hmd⟩ :=
      hsound.exists_equalIn_onBothSides hv hd hm hdepth
    exact ⟨answer, ⟨comesTo_of_equalIn hvm nofun, comesTo_of_equalIn hmv nofun⟩,
      comesTo_of_equalIn hdm nofun, comesTo_of_equalIn hmd nofun⟩
  · have hothers := hsound.contents hm.sound hm.contents
    obtain ⟨answer, ⟨hvm, hmv⟩, hdm, hmd⟩ := hsound.exists_equalIn_onBothSides hv hd hm
      (hsound.comparableIn_of_nested hentries hothers hnested)
    refine ⟨answer, fun levels bound depth hlevels hdepth => ?_⟩
    -- What is answered without taking up levels is answered with them, if there are enough.
    have hfar {a b : Value} (hab : h.equalIn (nesting + 1) a b = .ok answer) :
        h.equalAt levels depth a b = .ok answer := by
      have hcut := cutShort_equalWithin (h := h) hlevels (hlevels (a.comparer b)) hdepth a b
      rw [hab] at hcut
      exact (hcut.eq nofun).symm
    exact ⟨⟨hfar hvm, hfar hmv⟩, hfar hdm, hfar hmd⟩
  · -- Neither leaves the comparison to a plain dictionary, so both go through their own entries.
    have hplain : (Value.dict attributed address).defersTo (.dict false other) = false :=
      Bool.and_false _
    cases depth with
    | zero => rfl
    | succ depth =>
      rw [equalIn_succ, equalIn_succ, hdefers, hplain]
      exact (compareBy_congr _ hv hd rfl).1
  · -- Only a dictionary leaves the comparison to another mapping, so `m` compares.
    have hasks (w : Value) : m.defersTo w = false := by
      cases m with
      | dict attributed address => exact absurd rfl (hne attributed address)
      | view | config => rfl
      | _ => cases hm
    cases depth with
    | zero => rfl
    | succ depth =>
      rw [equalIn_succ, equalIn_succ, hasks, hasks]
      exact (compareBy_congr _ hv hd hm).2
  · have hforth := hsound.agree_of_perm hv hm hm' hperm
    refine ⟨comesTo_true_iff hforth, comesTo_true_iff fun depth => ?_⟩
    exact (hsound.equalIn_comm hm.sound hv.sound depth).trans
      ((hforth depth).trans (hsound.equalIn_comm hv.sound hm'.sound depth))
  · exact ⟨equalAt_eq_of_compareBy hroom fun rest =>
        hsound.compareBy_of_perm hv hm hperm (sameAt_self h levels rest),
      equalAt_eq_of_compareBy hroom fun rest =>
        hsound.compareBy_of_perm hd hm hperm (sameAt_self h levels rest)⟩

/-- There is room for a comparison at the depth to which the program goes. -/
theorem comparingLevels_lt (w : Value) : w.comparingLevels < nestingLimit := by
  cases w <;> exact of_decide_eq_true rfl

theorem Sound.equal_of_perm (hsound : h.Sound) (hv : h.HasEntries v entries)
    (hm : h.HasEntries m others) (hperm : entries.entries.Perm others.entries) :
    h.equal v m = .ok true := by
  rw [equal_eq_equalAt]
  exact (equalAt_eq_of_compareBy comparingLevels_lt fun rest =>
    hsound.compareBy_of_perm hv hm hperm (sameAt_self h _ rest)).1

/-- Where the program answers for both, whoever compares, it gives the same answer. -/
theorem ComparesLike.equal_answers (hlike : h.ComparesLike v d entries)
    (hm : m.isMapping = true) (hms : m.Sound) {a b : Bool} :
    (h.equal v m = .ok a → h.equal d m = .ok b → a = b) ∧
      (h.equal m v = .ok a → h.equal m d = .ok b → a = b) := by
  have hcomes {x y : Value} {answer : Bool} (hanswers : h.equal x y = .ok answer) :
      h.ComesTo x y (.ok answer) := by
    rw [equal_eq_equalAt] at hanswers
    exact comesTo_of_equalAt hanswers (by simp)
  obtain ⟨hforth, hback⟩ := hlike.answers m hm hms a b
  exact ⟨fun ha hb => hforth (hcomes ha) (hcomes hb), fun ha hb => hback (hcomes ha) (hcomes hb)⟩

/-! ### Views of dictionaries -/

/-- A view with the entries of a dictionary reads like the dictionary, and both can be made from
each other. -/
structure ViewMatches (h : Heap) (serial : Nat) (attributed : Bool) (address : Nat) : Prop where
  /-- These are the entries that a view of the dictionary has. -/
  copied : h.copyEntries (.dict attributed address) = .ok (h.dict address)
  /-- Whatever it is asked it answers what the dictionary answers. -/
  reads : h.ReadsLike (.view serial (h.dict address).entries) (.dict attributed address)
    (h.dict address)
  /-- It equals whatever the dictionary equals. -/
  compares : h.ComparesLike (.view serial (h.dict address).entries) (.dict attributed address)
    (h.dict address)
  /-- A view of the view has the same entries. -/
  copied_again : h.copyEntries (.view serial (h.dict address).entries) = .ok (h.dict address)
  /-- A view of the view equals it. -/
  again : ∀ other, h.replacement? other = none →
    h.equal (.view other (h.dict address).entries)
      (.view serial (h.dict address).entries) = .ok true
  /-- A dictionary made from the view has the same entries. -/
  put_back : h.putEntries .empty (.view serial (h.dict address).entries) = .ok (h.dict address)
  /-- A dictionary made from the view equals the one that it copies. -/
  back : (h.newDict false (h.dict address)).2.equal (h.newDict false (h.dict address)).1
    (.dict attributed address) = .ok true

/-- **A view reads like the dictionary that it copies**, in a sound memory, and unless something
else was put in the place of its entries. -/
theorem Sound.viewMatches (hsound : h.Sound) (hkept : h.replacement? serial = none)
    (attributed : Bool) (address : Nat) : h.ViewMatches serial attributed address := by
  obtain ⟨hd, hdict⟩ := hsound.hasEntries_dict attributed address
  have hview {other : Nat} (hother : h.replacement? other = none) :=
    hasEntries_view hother hdict
  have hreading := reading_view hkept (h.dict address)
  have htruth := isTruthy_view h serial (h.dict address).entries
  have htruth' := isTruthy_dict h attributed address
  exact {
    copied := hsound.copyEntries_of_hasEntries hd (reading_dict h attributed address ▸ htruth')
    reads := readsLike_of_reading hsound hreading htruth
    compares := comparesLike_of_hasEntries hsound (hview hkept) (fun _ => rfl) attributed
    copied_again := hsound.copyEntries_of_hasEntries (hview hkept) (hreading ▸ htruth)
    again other hother := hsound.equal_of_perm (hview hother) (hview hkept) (.refl _)
    put_back := hsound.putEntries_of_hasEntries (hview hkept)
    back := by
      have hnew : (h.newDict false (h.dict address)).2.dict h.dicts.size = h.dict address := by
        rw [dict_newDict, if_pos rfl]
      have hold : (h.newDict false (h.dict address)).2.dict address = h.dict address := by
        rw [dict_newDict, ite_self]
      exact (hsound.newDict hdict false).equal_of_perm
        ⟨rfl, Value.sound_dict false h.dicts.size, congrArg Except.ok hnew⟩
        ⟨rfl, Value.sound_dict attributed address, congrArg Except.ok hold⟩ (.refl _) }

/-- Two dictionaries that contain themselves, one of them in a dictionary before a number, the other
in a dictionary after another number. -/
def knots : Heap :=
  { Heap.empty with
    dicts := #[⟨[(.text "k", .dict false 0)]⟩, ⟨[(.text "k", .dict false 1)]⟩,
      ⟨[(.text "x", .dict false 0), (.text "y", .int 1)]⟩,
      ⟨[(.text "y", .int 2), (.text "x", .dict false 1)]⟩] }

theorem sound_knots : knots.Sound := by
  have hsimple {entries : Entries} (hproper : entries.Proper)
      (hvalues : ∀ value ∈ entries.values, value.Hashable ∨
        ∃ address, value = .dict false address) : entries.Sound := by
    refine ⟨hproper, fun value hvalue => ?_⟩
    rcases hvalues value hvalue with hhashable | ⟨address, rfl⟩
    · exact hhashable.sound
    · exact Value.sound_dict false address
  refine ⟨fun address => ?_, sound_empty.own, sound_empty.sources, sound_empty.replacement⟩
  match address with
  | 0 | 1 | 2 | 3 =>
    exact hsimple ⟨by decide, by decide⟩
      (by simp [knots, Heap.dict, Table.values, Value.Hashable, Value.unhashable?])
  | _ + 4 => exact Entries.sound_empty

/-- The two that contain themselves are compared without end. -/
theorem equalIn_knots (depth : Nat) :
    knots.equalIn depth (.dict false 0) (.dict false 1) = .error .endlessComparison := by
  induction depth with
  | zero => rfl
  | succ depth ih =>
    have hsame : knots.sameIn depth (.dict false 0) (.dict false 1) =
        .error .endlessComparison := by
      rw [sameIn, if_neg (by decide), ih]
    rw [equalIn_succ, if_neg (by decide), compareBy_of_isMapping rfl rfl]
    change Entries.compareBy _ (knots.dict 0) (knots.dict 1) = _
    exact Entries.compareBy_of_first rfl rfl hsame (by simp)

/-- The two that contain themselves are compared without end, whatever levels are taken up. -/
theorem sameAt_knots (levels : Value → Nat) (depth : Nat) :
    knots.sameAt levels depth (.dict false 0) (.dict false 1) = .error .endlessComparison := by
  have hcut := cutShort_equalIn (h := knots) levels depth
    (levels (Value.comparer (.dict false 0) (.dict false 1))) (.dict false 0) (.dict false 1)
  rw [equalIn_knots] at hcut
  rw [sameAt, if_neg (by decide)]
  exact hcut.elim id id

/-- In a comparison of the other two what the first entry of the one that compares comes to is said
of all. -/
theorem compareBy_knots {same : Value → Value → Except Failure Bool}
    (hnumbers : same (.int 2) (.int 1) = .ok false)
    (hendless : same (.dict false 0) (.dict false 1) = .error .endlessComparison) :
    knots.compareBy same (.dict false 3) (.dict false 2) = .ok false ∧
      knots.compareBy same (.view 0 (knots.dict 2).entries) (.dict false 3) =
        .error .endlessComparison := by
  rw [compareBy_of_isMapping rfl rfl, compareBy_of_isMapping rfl rfl]
  change Entries.compareBy same (knots.dict 3) (knots.dict 2) = _ ∧
    Entries.compareBy same (knots.dict 2) (knots.dict 3) = _
  exact ⟨Entries.compareBy_of_first rfl rfl hnumbers (by simp),
    Entries.compareBy_of_first rfl rfl hendless (by simp)⟩

/-- The defaults in a dictionary, and a configuration made from bytes. -/
def defaultsAndBytes : Heap :=
  { Heap.empty with dicts := #[⟨Setting.defaults⟩], configs := #[⟨.empty, [.bytes 1 []]⟩] }

end Heap

end BoundedVars
