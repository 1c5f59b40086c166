import BoundedVars.Proofs.Collection

/-!
# Sound memories

In a dictionary nothing stands that cannot be a key, and no key stands twice.  Nor does it in the
copies that views have, however deep in other values these are.  A memory of which this is true is
*sound* (`Heap.Sound`), and so is a value (`Value.Sound`).

Whatever is found in a sound memory is sound again (`Heap.Sound.find?`, `Heap.Sound.contents`), and
whatever is written to mappings, by whatever sound values, leaves the memory sound
(`Heap.Rewritten.sound`).
-/

namespace BoundedVars

open Except

namespace Value

/-- The values of which a value is made: the items of a list or tuple, the values of a view. -/
def parts : Value → List Value
  | list _ items | tuple _ items => items
  | limits _ a b c d => [a, b, c, d]
  | view _ entries => entries.map (·.2)
  | _ => []

/-- No view in a value has anything among its keys that cannot be one, or the same key twice. -/
inductive Sound : Value → Prop
  | intro {v : Value}
    (hentries : ∀ serial entries, v = view serial entries → Table.Proper ⟨entries⟩)
    (hparts : ∀ part ∈ v.parts, part.Sound) : v.Sound

end Value

/-- Entries with different keys and sound values. -/
structure Entries.Sound (entries : Entries) : Prop where
  proper : entries.Proper
  values : ∀ value ∈ entries.values, value.Sound

/-- A memory in which all entries are sound, also those of the values in it. -/
structure Heap.Sound (h : Heap) : Prop where
  dict : ∀ address, (h.dict address).Sound
  own : ∀ address, (h.config address).own.Sound
  sources : ∀ address, ∀ source ∈ (h.config address).sources, source.Sound
  replacement : ∀ serial value, h.replacement? serial = some value → value.Sound

variable {h h' : Heap} {entries result : Entries} {new : List (Value × Value)}
  {v key value found : Value}

/-! ### Values -/

namespace Value

theorem Sound.parts (hv : v.Sound) : ∀ part ∈ v.parts, part.Sound := by
  cases hv with | intro _ hparts => exact hparts

theorem sound_of_not_view (hview : ∀ serial entries, v ≠ view serial entries)
    (hparts : ∀ part ∈ v.parts, part.Sound) : v.Sound :=
  .intro (fun serial entries hv => absurd hv (hview serial entries)) hparts

/-- What is made of nothing is sound. -/
theorem sound_of_parts_eq_nil (hview : ∀ serial entries, v ≠ view serial entries)
    (hparts : v.parts = []) : v.Sound :=
  sound_of_not_view hview (by simp [hparts])

theorem sound_none : none.Sound :=
  sound_of_parts_eq_nil nofun rfl

theorem sound_dict (attributed : Bool) (address : Nat) : (dict attributed address).Sound :=
  sound_of_parts_eq_nil nofun rfl

theorem sound_view_iff {serial : Nat} {entries : List (Value × Value)} :
    (view serial entries).Sound ↔ Entries.Sound ⟨entries⟩ := by
  constructor
  · intro hview
    have hparts := hview.parts
    cases hview with | intro hentries _ => exact ⟨hentries serial entries rfl, hparts⟩
  · rintro ⟨hproper, hvalues⟩
    refine .intro ?_ hvalues
    rintro _ _ ⟨⟩
    exact hproper

theorem sound_limits {serial : Nat} {a b c d : Value} (ha : a.Sound) (hb : b.Sound) (hc : c.Sound)
    (hd : d.Sound) : (limits serial a b c d).Sound :=
  sound_of_not_view nofun (by simp [parts, ha, hb, hc, hd])

theorem sound_limitsOf {serial : Nat} {f : Limit → Value} (hf : ∀ limit, (f limit).Sound) :
    (limitsOf serial f).Sound :=
  sound_limits (hf _) (hf _) (hf _) (hf _)

mutual

/-- What can be a key has no views in it. -/
theorem Hashable.sound : ∀ {v : Value}, v.Hashable → v.Sound
  | none, _ | bool _, _ | int _, _ | text _, _ | float .., _ | bytes .., _ | context _, _
  | store _, _ | raising .., _ | notCallable _, _ | plain _, _ => sound_of_parts_eq_nil nofun rfl
  | tuple _ items, hv => sound_of_not_view nofun (sound_of_unhashableIn? items hv)
  | limits _ a b c d, hv => by
    simp only [Hashable, unhashable?, Option.orElse_eq_orElse, Option.orElse_eq_or,
      Option.or_eq_none_iff] at hv
    obtain ⟨ha, hb, hc, hd⟩ := hv
    exact sound_limits (Hashable.sound ha) (Hashable.sound hb) (Hashable.sound hc)
      (Hashable.sound hd)

theorem sound_of_unhashableIn? : ∀ items : List Value,
    unhashable?.unhashableIn? items = Option.none → ∀ item ∈ items, item.Sound
  | [], _ => by simp
  | v :: rest, hitems => by
    simp only [unhashable?.unhashableIn?, Option.orElse_eq_orElse, Option.orElse_eq_or,
      Option.or_eq_none_iff] at hitems
    obtain ⟨hv, hrest⟩ := hitems
    exact List.forall_mem_cons.mpr ⟨Hashable.sound hv, sound_of_unhashableIn? rest hrest⟩

end

/-- The items of a sequence are sound. -/
theorem Sound.sequence {sequence : Sequence} {items : List Value} (hv : v.Sound)
    (hitems : v.sequence? = some (sequence, items)) : ∀ item ∈ items, item.Sound := by
  cases v with
  | list | tuple | limits =>
    obtain ⟨-, rfl⟩ := Prod.mk.inj (Option.some.inj hitems)
    exact hv.parts
  | text | bytes =>
    obtain ⟨-, rfl⟩ := Prod.mk.inj (Option.some.inj hitems)
    exact List.forall_mem_map.mpr fun _ _ => sound_of_parts_eq_nil nofun rfl
  | _ => cases hitems

theorem sound_itemAt {sequence : Sequence} {items : List Value}
    (hitems : ∀ item ∈ items, item.Sound) (hfound : itemAt sequence items key = .ok found) :
    found.Sound := by
  have hat {n : Int} (hfound : itemAt.at? sequence items n = .ok found) : found.Sound := by
    simp only [itemAt.at?] at hfound
    generalize (if n < 0 then n + (items.length : Int) else n) = position at hfound
    split_ifs at hfound
    split at hfound
    · rename_i item hitem
      obtain rfl := Except.ok.inj hfound
      exact hitems _ (List.mem_of_getElem? hitem)
    · cases hfound
  unfold itemAt at hfound
  split at hfound
  · exact hat hfound
  · exact hat hfound
  · cases hfound

end Value

/-! ### Limits and settings -/

theorem Limits.hashable_toValue (l : Limits) (serial : Nat) : (l.toValue serial).Hashable := rfl

theorem Setting.hashable_default (s : Setting) : s.default.Hashable := by
  cases s <;> rfl

/-- Limits put together from sound values are sound. -/
theorem Value.sound_makeLimits {serial : Nat} {given : List Value} {named : List (String × Value)}
    (hgiven : ∀ v ∈ given, v.Sound) (hnamed : ∀ e ∈ named, e.2.Sound)
    (hresult : makeLimits serial given named = .ok v) : v.Sound := by
  obtain ⟨_, -, hresult⟩ := bind_eq_ok_iff.mp hresult
  dsimp only at hresult
  split_ifs at hresult
  · cases hresult
  obtain rfl := Except.ok.inj hresult
  refine sound_limitsOf fun limit => ?_
  cases hfound : (Limit.all.zip given).lookup limit with
  | some found =>
    rw [← Table.get?_eq_lookup ⟨Limit.all.zip given⟩] at hfound
    exact hgiven found (List.of_mem_zip (Table.mem_entries_of_get? hfound)).2
  | none =>
    cases hfound : named.lookup limit.key with
    | some found =>
      rw [← Table.get?_eq_lookup ⟨named⟩] at hfound
      exact hnamed _ (Table.mem_entries_of_get? hfound)
    | none => exact Hashable.sound rfl

/-! ### Entries -/

namespace Entries

theorem sound_empty : Sound .empty :=
  ⟨Table.proper_empty, fun _ hvalue => absurd hvalue List.not_mem_nil⟩

theorem Sound.get? (hentries : entries.Sound) (hfound : entries.get? key = some found) :
    found.Sound :=
  hentries.values found (Table.mem_values_of_get? hfound)

theorem Sound.find? (hentries : entries.Sound) (hfound : entries.find? key = .ok (some found)) :
    found.Sound := by
  cases hkey : key.unhashable? with
  | none =>
    rw [Entries.find?_of_hashable hkey] at hfound
    exact hentries.get? (Except.ok.inj hfound)
  | some kind =>
    rw [Entries.find?_of_unhashable hkey] at hfound
    cases hfound

theorem Sound.insert (hentries : entries.Sound) (hkey : key.Hashable) (hvalue : value.Sound) :
    Sound (entries.insert key value) := by
  refine ⟨hentries.proper.insert hkey.beq_self value, fun v hv => ?_⟩
  rcases Table.mem_values_insert hv with rfl | hv
  · exact hvalue
  · exact hentries.values v hv

theorem Sound.erase (hentries : entries.Sound) (key : Value) : Sound (entries.erase key) :=
  ⟨hentries.proper.erase key, fun v hv =>
    hentries.values v ((List.filter_sublist.map _).subset hv)⟩

theorem Sound.take? (hentries : entries.Sound) {taken : Option Value}
    (hresult : entries.take? key = .ok (taken, result)) :
    (∀ value, taken = some value → value.Sound) ∧ result.Sound := by
  rw [Entries.take?] at hresult
  split_ifs at hresult
  · obtain ⟨rfl, rfl⟩ := Prod.mk.inj (Except.ok.inj hresult)
    exact ⟨nofun, hentries⟩
  · obtain ⟨found, hfound, hresult⟩ := bind_eq_ok_iff.mp hresult
    obtain ⟨rfl, rfl⟩ := Prod.mk.inj (Except.ok.inj hresult)
    exact ⟨fun value hvalue => hentries.find? (hvalue ▸ hfound), hentries.erase key⟩

theorem Sound.put (hentries : entries.Sound) (hvalue : value.Sound)
    (hresult : entries.put key value = .ok result) : result.Sound := by
  rw [Entries.put] at hresult
  split at hresult
  · cases hresult
  · rename_i hkey
    obtain rfl := Except.ok.inj hresult
    exact hentries.insert hkey hvalue

theorem Sound.putAll (hentries : entries.Sound) (hnew : ∀ e ∈ new, e.2.Sound)
    (hresult : entries.putAll new = .ok result) : result.Sound :=
  foldlM_induction (fun e he _ _ hentries hput => hentries.put (hnew e he) hput) hentries hresult

/-- Sound entries written to a new table are the same entries. -/
theorem Sound.putAll_entries (hentries : entries.Sound) :
    Entries.putAll .empty entries.entries = .ok entries := by
  have hkeys : checkKeys (entries.entries.map (·.1)) = .ok () :=
    checkKeys_eq_ok_iff.mpr (hashable_of_proper hentries.proper)
  rw [Entries.putAll_eq, hkeys]
  exact congrArg Except.ok hentries.proper.insertAll_entries

theorem sound_defaults : Sound ⟨Setting.defaults⟩ := by
  refine ⟨⟨by decide, by decide⟩, fun value hvalue => ?_⟩
  obtain ⟨e, he, rfl⟩ := List.mem_map.mp hvalue
  obtain ⟨s, -, rfl⟩ := List.mem_map.mp he
  exact s.hashable_default.sound

end Entries

/-! ### What is found in a memory -/

/-- What a reader finds is sound. -/
def Reading.Sound (r : Reading) : Prop :=
  ∀ key found, r.find? key = .ok (some found) → found.Sound

namespace Reading.Sound

variable {r : Reading} {fallback : Value}

theorem get (hr : r.Sound) (hfallback : fallback.Sound) (hok : r.get key fallback = .ok found) :
    found.Sound := by
  obtain ⟨value, hvalue, hok⟩ := bind_eq_ok_iff.mp hok
  obtain rfl := Except.ok.inj hok
  cases value with
  | none => exact hfallback
  | some value => exact hr _ _ hvalue

theorem item (hr : r.Sound) (hok : r.item key = .ok found) : found.Sound := by
  obtain ⟨value, hvalue, hok⟩ := bind_eq_ok_iff.mp hok
  cases value with
  | none => cases hok
  | some value =>
    obtain rfl := Except.ok.inj hok
    exact hr _ _ hvalue

end Reading.Sound

namespace Heap

/-- **What is found under a key** in a sound memory is sound. -/
theorem Sound.findWithin (hsound : h.Sound) (hv : v.Sound) {reach : Nat}
    (hfound : h.findWithin reach v key = .ok (some found)) : found.Sound := by
  fun_induction h.findWithin reach v key with
  | case1 _ v key sequence items hsequence =>
    cases hitem : Value.itemAt sequence items key with
    | error failure =>
      rw [hitem] at hfound
      cases hfound
    | ok item =>
      rw [hitem] at hfound
      obtain rfl := Option.some.inj (Except.ok.inj hfound)
      exact Value.sound_itemAt (hv.sequence hsequence) hitem
  | case2 => exact (hsound.dict _).find? hfound
  | case3 => exact (Value.sound_view_iff.mp hv).find? hfound
  | case4 => cases hfound
  -- A view whose entries were replaced passes the question on.
  | case5 _ _ _ _ hreplaced _ _ ih => exact ih (hsound.replacement _ _ hreplaced) hfound
  | case6 => cases hfound
  | case7 key address reach config _ ih =>
    -- Its own entries come first, then the sources, then the defaults.
    obtain ⟨own, hown, hfound⟩ := bind_eq_ok_iff.mp hfound
    cases own with
    | some own =>
      obtain rfl := Option.some.inj (Except.ok.inj hfound)
      exact (hsound.own address).find? hown
    | none =>
      obtain ⟨layer, hlayer, hfound⟩ := bind_eq_ok_iff.mp hfound
      cases layer with
      | some layer =>
        obtain rfl := Option.some.inj (Except.ok.inj hfound)
        obtain ⟨source, hsource, hlayer⟩ := exists_of_findSomeM?_eq_some hlayer
        exact ih source (hsound.sources address source hsource) hlayer
      | none => exact Entries.sound_defaults.find? hfound
  | case8 => cases hfound

theorem Sound.find? (hsound : h.Sound) (hv : v.Sound)
    (hfound : h.find? v key = .ok (some found)) : found.Sound :=
  hsound.findWithin hv hfound

theorem Sound.reading (hsound : h.Sound) (hv : v.Sound) : (h.reading v).Sound :=
  fun _ _ hfound => hsound.find? hv hfound

theorem Sound.item (hsound : h.Sound) (hv : v.Sound) (hfound : h.item v key = .ok found) :
    found.Sound :=
  (hsound.reading hv).item hfound

theorem Sound.collected (hsound : h.Sound) (hv : v.Sound) (hresult : h.collected v = .ok result) :
    result.Sound := by
  obtain ⟨keys, -, hresult⟩ := bind_eq_ok_iff.mp hresult
  obtain ⟨new, hnew, hresult⟩ := bind_eq_ok_iff.mp hresult
  refine Entries.sound_empty.putAll (fun e he => ?_) hresult
  obtain ⟨key, -, he⟩ := exists_of_mem_mapM hnew e he
  obtain ⟨value, hvalue, he⟩ := bind_eq_ok_iff.mp he
  obtain rfl := Except.ok.inj he
  exact hsound.item hv hvalue

/-- **The entries of a mapping** in a sound memory are sound. -/
theorem Sound.contents (hsound : h.Sound) (hv : v.Sound) (hresult : h.contents v = .ok result) :
    result.Sound := by
  cases v with
  | dict attributed address => exact Except.ok.inj hresult ▸ hsound.dict address
  | view serial entries =>
    cases hreplacement : h.replacement? serial with
    | none =>
      rw [Heap.contents, hreplacement] at hresult
      exact Except.ok.inj hresult ▸ Value.sound_view_iff.mp hv
    | some value =>
      rw [Heap.contents, hreplacement] at hresult
      exact hsound.collected hv hresult
  | _ => exact hsound.collected hv hresult

theorem hashable_of_distinct {values keys : List Value} (hkeys : distinct values = .ok keys) :
    ∀ k ∈ keys, k.Hashable := by
  rw [distinct_eq] at hkeys
  obtain ⟨_, hvalues, rfl⟩ := map_eq_ok_iff.mp hkeys
  exact hashable_of_proper (proper_asKeys (checkKeys_eq_ok_iff.mp hvalues))

/-- **What comes when a value is gone through** is sound. -/
theorem Sound.elementsWithin (hsound : h.Sound) (hv : v.Sound) {reach : Nat} {xs : List Value}
    (hxs : h.elementsWithin reach v = .ok xs) : ∀ x ∈ xs, x.Sound := by
  fun_induction h.elementsWithin reach v generalizing xs with
  | case1 _ _ _ _ hsequence => exact Except.ok.inj hxs ▸ hv.sequence hsequence
  | case2 _ _ address =>
    obtain rfl := Except.ok.inj hxs
    exact fun key hkey => (hashable_of_proper (hsound.dict address).proper key hkey).sound
  | case3 =>
    obtain rfl := Except.ok.inj hxs
    have hentries := (Value.sound_view_iff.mp hv).proper
    exact fun key hkey => (hashable_of_proper hentries key hkey).sound
  | case4 => cases hxs
  | case5 _ _ _ hreplaced _ _ ih => exact ih (hsound.replacement _ _ hreplaced) hxs
  | case6 => cases hxs
  | case7 =>
    -- The keys of a configuration have been counted as keys, so they can be ones.
    obtain ⟨keys, -, hxs⟩ := bind_eq_ok_iff.mp hxs
    exact fun key hkey => (hashable_of_distinct hxs key hkey).sound
  | case8 => cases hxs

/-- **What a mapping answers** is sound, if what it is to answer for an absent key is. -/
theorem Sound.get (hsound : h.Sound) (hv : v.Sound) {fallback : Value} (hfallback : fallback.Sound)
    (hfound : h.get v key fallback = .ok found) : found.Sound := by
  cases v with
  | dict | view => exact (hsound.reading hv).get hfallback hfound
  | config =>
    obtain ⟨present, -, hfound⟩ := bind_eq_ok_iff.mp hfound
    cases present with
    | true => exact hsound.item hv hfound
    | false => exact Except.ok.inj hfound ▸ hfallback
  | _ => cases hfound

theorem Sound.setting (hsound : h.Sound) (hv : v.Sound) {s : Setting}
    (hfound : h.setting v s = .ok found) : found.Sound :=
  hsound.get hv s.hashable_default.sound hfound

/-- What the environment says is a text, bytes or an integer, and so it has a hash. -/
theorem hashable_environmentValue {s : Setting} (hfound : h.environmentValue s v = .ok found) :
    found.Hashable := by
  obtain ⟨value, hvalue, hfound⟩ := bind_eq_ok_iff.mp hfound
  cases s with
  | limit limit =>
    obtain ⟨n, -, hfound⟩ := bind_eq_ok_iff.mp hfound
    obtain rfl := Except.ok.inj hfound
    rfl
  | logLevel =>
    obtain rfl := Except.ok.inj hfound
    cases v with
    | text | bytes =>
      obtain rfl := Except.ok.inj hvalue
      rfl
    | _ => cases hvalue

/-- **What is taken from the environment** is sound: it stands under the keys of settings. -/
theorem sound_environmentOverrides (hresult : h.environmentOverrides v = .ok result) :
    result.Sound := by
  refine foldlM_induction (fun s _ found next hfound hnext => ?_) Entries.sound_empty hresult
  obtain ⟨raw, -, hnext⟩ := bind_eq_ok_iff.mp hnext
  split at hnext
  · exact Except.ok.inj hnext ▸ hfound
  · obtain ⟨value, hvalue, hnext⟩ := bind_eq_ok_iff.mp hnext
    obtain rfl := Except.ok.inj hnext
    exact hfound.insert (Value.hashable_text s.key) (hashable_environmentValue hvalue).sound

/-! ### What is done to a memory -/

section Arrays

variable {α : Type} {P : α → Prop} {xs : Array α} {fallback x : α}

/-- What holds at all addresses still does when something is replaced by what it holds of. -/
theorem forall_getD_setIfInBounds (hall : ∀ i, P (xs.getD i fallback)) (hx : P x) (i j : Nat) :
    P ((xs.setIfInBounds i x).getD j fallback) := by
  have hj := hall j
  simp only [Array.getD_eq_getD_getElem?, Array.getElem?_setIfInBounds] at hj ⊢
  split_ifs with heq hlt
  · exact hx
  · -- Where nothing is there is nothing to replace.
    rwa [← heq, Array.getElem?_eq_none (Nat.le_of_not_lt hlt)] at hj
  · exact hj

/-- What holds at all addresses still does when something is added that it holds of. -/
theorem forall_getD_push (hall : ∀ i, P (xs.getD i fallback)) (hx : P x) (j : Nat) :
    P ((xs.push x).getD j fallback) := by
  have hj := hall j
  simp only [Array.getD_eq_getD_getElem?, Array.getElem?_push] at hj ⊢
  split_ifs
  · exact hx
  · exact hj

end Arrays

section Writing

variable {address : Nat} {sources : List Value}

theorem sound_empty : Heap.empty.Sound :=
  ⟨fun _ => Entries.sound_empty, fun _ => Entries.sound_empty,
    fun _ _ hsource => absurd hsource List.not_mem_nil, nofun⟩

theorem Sound.setDict (hsound : h.Sound) (hentries : entries.Sound) (address : Nat) :
    (h.setDict address entries).Sound :=
  { hsound with dict := forall_getD_setIfInBounds hsound.dict hentries address }

theorem Sound.setOwn (hsound : h.Sound) (hentries : entries.Sound) (address : Nat) :
    (h.setOwn address entries).Sound := by
  let written : Config := { h.config address with own := entries }
  have hown : written.own.Sound := hentries
  have hsources : ∀ source ∈ written.sources, source.Sound := hsound.sources address
  exact { hsound with
    own := forall_getD_setIfInBounds (P := fun c : Config => c.own.Sound) hsound.own hown address
    sources := forall_getD_setIfInBounds (P := fun c : Config => ∀ source ∈ c.sources, source.Sound)
      hsound.sources hsources address }

theorem dict_newDict (h : Heap) (attributed : Bool) (entries : Entries) (other : Nat) :
    (h.newDict attributed entries).2.dict other =
      if other = h.dicts.size then entries else h.dict other := by
  simp only [Heap.dict, Heap.newDict, Array.getD_eq_getD_getElem?, Array.getElem?_push]
  split_ifs <;> rfl

/-- **A new dictionary** with sound entries leaves a memory sound. -/
theorem Sound.newDict (hsound : h.Sound) (hentries : entries.Sound) (attributed : Bool) :
    (h.newDict attributed entries).2.Sound :=
  { hsound with dict := forall_getD_push hsound.dict hentries }

/-- **A new configuration** made from sound values leaves a memory sound. -/
theorem Sound.newConfig (hsound : h.Sound) (hsources : ∀ source ∈ sources, source.Sound) :
    (h.newConfig sources).2.Sound := by
  let made : Config := ⟨.empty, sources⟩
  have hown : made.own.Sound := Entries.sound_empty
  have hsources : ∀ source ∈ made.sources, source.Sound := hsources
  exact { hsound with
    own := forall_getD_push (P := fun c : Config => c.own.Sound) hsound.own hown
    sources := forall_getD_push (P := fun c : Config => ∀ source ∈ c.sources, source.Sound)
      hsound.sources hsources }

/-- **A sound value in the place of the entries of a view** leaves a memory sound. -/
theorem Sound.replaceView (hsound : h.Sound) (hvalue : value.Sound) (serial : Nat) :
    (h.replaceView serial value).Sound := by
  refine ⟨hsound.dict, hsound.own, hsound.sources, fun other found hfound => ?_⟩
  rw [Heap.replacement?, Heap.replaceView, Table.get?_insert] at hfound
  split_ifs at hfound
  · exact Option.some.inj hfound ▸ hvalue
  · exact hsound.replacement other found hfound

theorem Sound.writable (hsound : h.Sound) {failure : Failure}
    (hentries : h.writable v failure = .ok entries) : entries.Sound := by
  cases v with
  | dict _ address => exact Except.ok.inj hentries ▸ hsound.dict address
  | config address => exact Except.ok.inj hentries ▸ hsound.own address
  | _ => cases hentries

theorem Sound.setWritable (hsound : h.Sound) (hentries : entries.Sound) (v : Value) :
    (h.setWritable v entries).Sound := by
  cases v with
  | dict _ address => exact hsound.setDict hentries address
  | config address => exact hsound.setOwn hentries address
  | _ => exact hsound

/-- A memory after the part of a mapping that can be written was replaced by sound entries. -/
def Rewritten (h h' : Heap) : Prop :=
  ∃ (v : Value) (entries : Entries), entries.Sound ∧ h' = h.setWritable v entries

/-- **Writing to mappings** leaves a memory sound. -/
theorem Rewritten.sound (hrewritten : h.Rewritten h') (hsound : h.Sound) : h'.Sound := by
  obtain ⟨v, entries, hentries, rfl⟩ := hrewritten
  exact hsound.setWritable hentries v

/-- Writing an entry of a mapping rewrites it. -/
theorem Sound.rewritten_putItem (hsound : h.Sound) (hvalue : value.Sound)
    (hok : h.putItem v key value = .ok h') : h.Rewritten h' := by
  obtain ⟨entries, hentries, hok⟩ := bind_eq_ok_iff.mp hok
  obtain ⟨result, hresult, hok⟩ := bind_eq_ok_iff.mp hok
  obtain rfl := Except.ok.inj hok
  exact ⟨v, result, (hsound.writable hentries).put hvalue hresult, rfl⟩

/-- Removing an entry of a mapping rewrites it. -/
theorem Sound.rewritten_deleteItem (hsound : h.Sound) (hok : h.deleteItem v key = .ok h') :
    h.Rewritten h' := by
  obtain ⟨entries, hentries, hok⟩ := bind_eq_ok_iff.mp hok
  obtain ⟨found, -, hok⟩ := bind_eq_ok_iff.mp hok
  cases found with
  | none =>
    obtain ⟨failure, -, hok⟩ := bind_eq_ok_iff.mp hok
    cases hok
  | some _ =>
    obtain rfl := Except.ok.inj hok
    exact ⟨v, _, (hsound.writable hentries).erase key, rfl⟩

/-- Taking an entry out of a mapping rewrites it, and what is taken out is sound. -/
theorem Sound.rewritten_popItem (hsound : h.Sound) {fallback : Option Value}
    (hfallback : ∀ value, fallback = some value → value.Sound)
    (hok : h.popItem v key fallback = .ok (found, h')) : found.Sound ∧ h.Rewritten h' := by
  obtain ⟨entries, hentries, hok⟩ := bind_eq_ok_iff.mp hok
  obtain ⟨⟨taken, rest⟩, htaken, hok⟩ := bind_eq_ok_iff.mp hok
  obtain ⟨hfound, hrest⟩ := (hsound.writable hentries).take? htaken
  cases taken with
  | some value =>
    obtain ⟨rfl, rfl⟩ := Prod.mk.inj (Except.ok.inj hok)
    exact ⟨hfound _ rfl, v, rest, hrest, rfl⟩
  | none =>
    cases fallback with
    | some value =>
      obtain ⟨rfl, rfl⟩ := Prod.mk.inj (Except.ok.inj hok)
      exact ⟨hfallback _ rfl, .none, rest, hrest, rfl⟩
    | none =>
      obtain ⟨failure, -, hok⟩ := bind_eq_ok_iff.mp hok
      cases hok

/-- Removing all entries of a mapping rewrites it. -/
theorem rewritten_clearItems (hok : h.clearItems v = .ok h') : h.Rewritten h' := by
  obtain ⟨_, -, hok⟩ := bind_eq_ok_iff.mp hok
  obtain rfl := Except.ok.inj hok
  exact ⟨v, .empty, Entries.sound_empty, rfl⟩

end Writing

/-! ### Copies -/

theorem Sound.putPairs (hsound : h.Sound) {pairs : List Value} (hpairs : ∀ pair ∈ pairs, pair.Sound)
    (hentries : entries.Sound) {position : Nat}
    (hresult : h.putPairs entries position pairs = .ok result) : result.Sound := by
  induction pairs generalizing entries position with
  | nil => exact Except.ok.inj hresult ▸ hentries
  | cons pair rest ih =>
    obtain ⟨hpair, hrest⟩ := List.forall_mem_cons.mp hpairs
    rw [Heap.putPairs] at hresult
    split at hresult
    · cases hresult
    · rename_i key value helements
      have hvalue : value.Sound := hsound.elementsWithin hpair helements value (by simp)
      obtain ⟨next, hnext, hresult⟩ := bind_eq_ok_iff.mp hresult
      exact ih hrest (hentries.put hvalue hnext) hresult
    · cases hresult

theorem Sound.putEntries (hsound : h.Sound) (hv : v.Sound) (hentries : entries.Sound)
    (hresult : h.putEntries entries v = .ok result) : result.Sound := by
  rw [Heap.putEntries] at hresult
  split at hresult
  · obtain ⟨new, hnew, hresult⟩ := bind_eq_ok_iff.mp hresult
    have hvalues := (hsound.contents hv hnew).values
    exact hentries.putAll (fun e he => hvalues e.2 (List.mem_map_of_mem he)) hresult
  · obtain ⟨pairs, hpairs, hresult⟩ := bind_eq_ok_iff.mp hresult
    exact hsound.putPairs (hsound.elementsWithin hv hpairs) hentries hresult

/-- **A copy** of the entries that a value stands for is sound, so a view that has it is. -/
theorem Sound.copyEntries (hsound : h.Sound) (hv : v.Sound)
    (hresult : h.copyEntries v = .ok result) : result.Sound := by
  obtain ⟨truth, -, hresult⟩ := bind_eq_ok_iff.mp hresult
  cases truth with
  | true => exact hsound.putEntries hv Entries.sound_empty hresult
  | false => exact Except.ok.inj hresult ▸ Entries.sound_empty

end Heap

end BoundedVars
