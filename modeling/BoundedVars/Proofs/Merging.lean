import BoundedVars.Proofs.Configuration

/-!
# Configurations merged from dictionaries

A configuration that was made from dictionaries (`Heap.merges_newConfig`), and not written to since,
says about a setting what the first dictionary that has it says, or else the default
(`Heap.setting_merged`).  What stands in a dictionary under a key that an earlier one has already is
never looked at (`findSome?_eq_of_shadowed`), so it has no influence on the limits
(`Heap.first_dictionary_wins`).
-/

/-! ### Searching lists -/

namespace Except

variable {ε α β : Type} {f : α → Except ε (Option β)} {g : α → Option β}

/-- A search in which nothing fails is a search. -/
theorem findSomeM?_eq_ok {xs : List α} (hok : ∀ x ∈ xs, f x = .ok (g x)) :
    xs.findSomeM? f = .ok (xs.findSome? g) := by
  induction xs with
  | nil => rfl
  | cons x xs ih =>
    rw [List.findSomeM?_cons, hok x List.mem_cons_self, ok_bind, List.findSome?_cons]
    cases g x with
    | none => exact ih fun y hy => hok y (List.mem_cons_of_mem x hy)
    | some found => rfl

theorem anyM_eq_ok {p : α → Except ε Bool} {q : α → Bool} {xs : List α}
    (hok : ∀ x ∈ xs, p x = .ok (q x)) : xs.anyM p = .ok (xs.any q) := by
  induction xs with
  | nil => rfl
  | cons x xs ih =>
    rw [List.anyM_cons, hok x List.mem_cons_self, ok_bind, List.any_cons]
    cases q x with
    | false => exact ih fun y hy => hok y (List.mem_cons_of_mem x hy)
    | true => rfl

end Except

namespace BoundedVars

open Except

/-- **What comes after the first find is never looked at**: two lists in which the same is found at
each place, up to places before which something was found already, come to the same. -/
theorem findSome?_eq_of_shadowed {α β γ : Type} {f : α → Option γ} {g : β → Option γ}
    {xs : List α} {ys : List β} (hlength : xs.length = ys.length)
    (hsame : ∀ i x y, xs[i]? = some x → ys[i]? = some y →
      (∃ earlier ∈ xs.take i, (f earlier).isSome = true) ∨ f x = g y) :
    xs.findSome? f = ys.findSome? g := by
  induction xs generalizing ys with
  | nil =>
    obtain rfl := List.length_eq_zero_iff.mp hlength.symm
    rfl
  | cons x xs ih =>
    cases ys with
    | nil => cases hlength
    | cons y ys =>
      -- Nothing comes before the first place.
      have hfirst : f x = g y := by
        rcases hsame 0 x y rfl rfl with ⟨earlier, hearlier, -⟩ | hfirst
        · cases hearlier
        · exact hfirst
      rw [List.findSome?_cons, List.findSome?_cons, ← hfirst]
      cases hx : f x with
      | some found => rfl
      | none =>
        -- In what follows an earlier find is not the first element, where nothing was found.
        refine ih (Nat.succ.inj hlength) fun i x' y' hx' hy' => ?_
        rcases hsame (i + 1) x' y' hx' hy' with ⟨earlier, hearlier, hfound⟩ | hsame
        · rw [List.take_succ_cons] at hearlier
          rcases List.mem_cons.mp hearlier with rfl | hearlier
          · rw [hx] at hfound
            cases hfound
          · exact .inl ⟨earlier, hearlier, hfound⟩
        · exact .inr hsame

/-- Limits as the entries of a dictionary. -/
def Limits.toEntries (limits : Limits) : Entries :=
  Table.ofList (Limit.all.map fun limit => (.text limit.key, .int (limits.get limit)))

/-- A value is a dictionary. -/
inductive Value.IsDict : Value → Prop
  | intro (attributed : Bool) (address : Nat) : IsDict (.dict attributed address)

namespace Heap

variable {h : Heap} {address reach : Nat} {ds : List Value} {d : Value} {limits : Limits}

/-! ### Configurations -/

/-- The entries of a dictionary. -/
def entriesOf (h : Heap) : Value → Entries
  | .dict _ address => h.dict address
  | _ => .empty

/-- At `address` there is a configuration as it was made from dictionaries. -/
structure Merges (h : Heap) (address : Nat) (ds : List Value) : Prop where
  address_lt : address < h.configs.size
  config_eq : h.config address = ⟨.empty, ds⟩
  isDict : ∀ d ∈ ds, d.IsDict

theorem merges_newConfig (hds : ∀ d ∈ ds, d.IsDict) :
    (h.newConfig ds).2.Merges h.configs.size ds where
  address_lt := by simp [newConfig]
  config_eq := by simp [newConfig, config]
  isDict := hds

/-- What the first dictionary says that has a key. -/
def firstGiven (h : Heap) (ds : List Value) (key : String) : Option Value :=
  ds.findSome? fun d => (h.entriesOf d).get? (.text key)

/-- What dictionaries say about a setting, or else the default. -/
def given (h : Heap) (ds : List Value) (s : Setting) : Value :=
  (h.firstGiven ds s.key).getD s.default

theorem findWithin_dict (hd : d.IsDict) (reach : Nat) (key : String) :
    h.findWithin reach d (.text key) = .ok ((h.entriesOf d).get? (.text key)) := by
  obtain ⟨attributed, address⟩ := hd
  cases reach <;> rfl

theorem containsWithin_dict (hd : d.IsDict) (reach : Nat) (key : String) :
    h.containsWithin reach d (.text key) = .ok ((h.entriesOf d).get? (.text key)).isSome := by
  obtain ⟨attributed, address⟩ := hd
  cases reach <;> rfl

/-- Every setting has a default. -/
theorem find?_defaults (s : Setting) :
    Entries.find? ⟨Setting.defaults⟩ (.text s.key) = .ok (some s.default) := by
  cases s with
  | limit limit => cases limit <;> rfl
  | logLevel => rfl

/-- There is a configuration, so a configuration can be followed. -/
theorem Merges.reach_eq (hmerges : h.Merges address ds) : ∃ reach, h.reach = reach + 1 := by
  have hlt := hmerges.address_lt
  refine ⟨h.reach - 1, ?_⟩
  rw [Heap.reach]
  omega

theorem find?_merged (hmerges : h.Merges address ds) (s : Setting) :
    h.find? (.config address) (.text s.key) = .ok (some (h.given ds s)) := by
  obtain ⟨reach, hreach⟩ := hmerges.reach_eq
  have hfirst : ds.findSomeM? (fun d => h.findWithin reach d (.text s.key)) =
      .ok (h.firstGiven ds s.key) :=
    findSomeM?_eq_ok fun d hd => findWithin_dict (hmerges.isDict d hd) reach s.key
  have hown : Entries.find? .empty (.text s.key) = .ok none := rfl
  rw [find?, hreach, findWithin, given]
  simp only [Value.sequence?, hmerges.config_eq, hown, ok_bind, hfirst, find?_defaults]
  cases h.firstGiven ds s.key <;> rfl

theorem contains_merged (hmerges : h.Merges address ds) (s : Setting) :
    h.contains (.config address) (.text s.key) = .ok true := by
  obtain ⟨reach, hreach⟩ := hmerges.reach_eq
  have hany : ds.anyM (fun d => h.containsWithin reach d (.text s.key)) =
      .ok (ds.any fun d => ((h.entriesOf d).get? (.text s.key)).isSome) :=
    anyM_eq_ok fun d hd => containsWithin_dict (hmerges.isDict d hd) reach s.key
  have hown : Entries.find? .empty (.text s.key) = .ok none := rfl
  rw [contains, hreach, containsWithin]
  simp only [hmerges.config_eq, hown, ok_bind, hany, find?_defaults]
  cases ds.any fun d => ((h.entriesOf d).get? (.text s.key)).isSome <;> rfl

/-- **The first dictionary that has a setting wins**, whatever it says. -/
theorem setting_merged (hmerges : h.Merges address ds) (s : Setting) :
    h.setting (.config address) s = .ok (h.given ds s) := by
  rw [setting, get, contains_merged hmerges, ok_bind, if_pos rfl, item, find?_merged hmerges]
  rfl

/-! ### Limits -/

/-- A dictionary in which limits are written down gives these limits again. -/
theorem configuredLimits_toEntries {attributed : Bool} (hdict : h.dict address = limits.toEntries)
    (hpos : ∀ limit, 0 < limits.get limit) :
    h.configuredLimits (.dict attributed address) = .ok limits := by
  have hsetting (limit : Limit) :
      h.setting (.dict attributed address) (.limit limit) = .ok (.int (limits.get limit)) := by
    rw [setting_dict, hdict]
    cases limit <;> rfl
  rw [configuredLimits_of_setting hsetting, coerceLimits_eq_ok_iff]
  exact fun limit => ⟨rfl, hpos limit⟩

/-- The dictionaries of one memory are, place by place, the same as those of another one but for
what stands under the key of a limit that an earlier dictionary has, or under any other key. -/
structure SameButShadowed (h h' : Heap) (ds ds' : List Value) : Prop where
  length_eq : ds.length = ds'.length
  same : ∀ (limit : Limit) (i : Nat) (d d' : Value), ds[i]? = some d → ds'[i]? = some d' →
    (∃ earlier ∈ ds.take i, (h.entriesOf earlier).contains (.text limit.key) = true) ∨
      (h.entriesOf d).get? (.text limit.key) = (h'.entriesOf d').get? (.text limit.key)

variable {h' : Heap} {ds' : List Value}

theorem SameButShadowed.given_eq (hsame : SameButShadowed h h' ds ds') (limit : Limit) :
    h'.given ds' (.limit limit) = h.given ds (.limit limit) := by
  have hfirst : h.firstGiven ds limit.key = h'.firstGiven ds' limit.key := by
    refine findSome?_eq_of_shadowed hsame.length_eq fun i d d' hd hd' => ?_
    simp only [Table.isSome_get?]
    exact hsame.same limit i d d' hd hd'
  rw [given, given]
  exact congrArg (Option.getD · _) hfirst.symm

/-- **The first dictionary wins, and what it shadows is never looked at.**  The limits that a
configuration sets which was merged from dictionaries are what the first dictionary says that has
the key of a limit, or the default, each made a limit in its turn.  So with other dictionaries in
their places, which differ only in what is shadowed or no limit, all comes to the same.  When the
dictionaries themselves are changed in this way, the same values are looked at and the same limits
are read; and a failure is the same, too, as long as these values look the same.  Limits that were
read are read again from a dictionary in which they are written down. -/
theorem first_dictionary_wins (hmerges : h.Merges address ds) :
    h.configuredLimits (.config address) =
      h.coerceLimits (fun limit => h.given ds (.limit limit)) ∧
    (∀ other ds', h.Merges other ds' → SameButShadowed h h ds ds' →
      h.configuredLimits (.config other) = h.configuredLimits (.config address)) ∧
    (∀ (h' : Heap) (other : Nat) (ds' : List Value), h'.Merges other ds' →
      SameButShadowed h h' ds ds' →
      h'.configuredLimits (.config other) =
          h'.coerceLimits (fun limit => h.given ds (.limit limit)) ∧
        (∀ limits, h'.configuredLimits (.config other) = .ok limits ↔
          h.configuredLimits (.config address) = .ok limits) ∧
        ((∀ limit, h'.written (h.given ds (.limit limit)) = h.written (h.given ds (.limit limit))) →
          h'.configuredLimits (.config other) = h.configuredLimits (.config address))) ∧
    ∀ limits, h.configuredLimits (.config address) = .ok limits →
      ∀ (h' : Heap) (attributed : Bool) (other : Nat), h'.dict other = limits.toEntries →
        h'.configuredLimits (.dict attributed other) = .ok limits := by
  have hmerged {h : Heap} {address : Nat} {ds : List Value} (hmerges : h.Merges address ds) :
      h.configuredLimits (.config address) =
        h.coerceLimits (fun limit => h.given ds (.limit limit)) :=
    configuredLimits_of_setting fun limit => setting_merged hmerges (.limit limit)
  have hcoerced {h' : Heap} {other : Nat} {ds' : List Value} (hother : h'.Merges other ds')
      (hsame : SameButShadowed h h' ds ds') :
      h'.configuredLimits (.config other) =
        h'.coerceLimits (fun limit => h.given ds (.limit limit)) := by
    rw [hmerged hother]
    simp only [hsame.given_eq]
  refine ⟨hmerged hmerges, ?_, ?_, ?_⟩
  · intro other ds' hother hsame
    rw [hcoerced hother hsame, hmerged hmerges]
  · intro h' other ds' hother hsame
    refine ⟨hcoerced hother hsame, fun limits => ?_, fun hwritten => ?_⟩
    · rw [hcoerced hother hsame, hmerged hmerges, coerceLimits_eq_ok_iff, coerceLimits_eq_ok_iff]
    · rw [hcoerced hother hsame, hmerged hmerges, coerceLimits_congr hwritten]
  · -- Limits that were read are positive, which is all that is asked of them again.
    intro limits hok h' attributed other hdict
    rw [hmerged hmerges, coerceLimits_eq_ok_iff] at hok
    exact configuredLimits_toEntries hdict fun limit => (hok limit).2

/-- A memory with two configurations that differ in what is shadowed, and in a colour. -/
def mergedTwice : Heap :=
  { Heap.empty with
    dicts := #[Table.ofList [(.text Limit.maxGlobalVars.key, .int 7)],
      Table.ofList [(.text Limit.maxGlobalVars.key, .text "many"),
        (.text Limit.maxKeySize.key, .text " 5 ")],
      Table.ofList [(.text "colour", .text "red"), (.text Limit.maxKeySize.key, .text " 5 ")]]
    configs := #[⟨.empty, [.dict false 0, .dict false 1]⟩,
      ⟨.empty, [.dict false 0, .dict false 2]⟩] }

/-- Both configurations set the same limits, and so does a dictionary in which these are written
down. -/
theorem limits_mergedTwice :
    mergedTwice.configuredLimits (.config 0) = .ok ⟨7, 50, 5, 10000⟩ ∧
      mergedTwice.configuredLimits (.config 1) = mergedTwice.configuredLimits (.config 0) ∧
      (mergedTwice.newDict false (Limits.toEntries ⟨7, 50, 5, 10000⟩)).2.configuredLimits
        (.dict false 3) = .ok ⟨7, 50, 5, 10000⟩ := by
  have hmerges (address other : Nat) (haddress : address < mergedTwice.configs.size)
      (hconfig : mergedTwice.config address = ⟨.empty, [.dict false 0, .dict false other]⟩) :
      mergedTwice.Merges address [.dict false 0, .dict false other] := by
    refine ⟨haddress, hconfig, ?_⟩
    rintro d (_ | ⟨_, _ | ⟨_, hd⟩⟩)
    · exact .intro false 0
    · exact .intro false other
    · cases hd
  obtain ⟨hcoerced, hshadowed, -, hagain⟩ := first_dictionary_wins (hmerges 0 1 (by decide) rfl)
  have hlimits : mergedTwice.configuredLimits (.config 0) = .ok ⟨7, 50, 5, 10000⟩ := by
    rw [hcoerced, coerceLimits_eq_ok_iff]
    intro limit
    cases limit <;> exact ⟨rfl, by decide⟩
  refine ⟨hlimits, ?_, hagain _ hlimits _ false 3 rfl⟩
  -- The dictionaries differ in the number of global variables only, which the first one sets.
  refine hshadowed 1 _ (hmerges 1 2 (by decide) rfl) ⟨rfl, ?_⟩
  rintro limit (_ | _ | i) d d' hd hd'
  · obtain rfl := Option.some.inj (hd.symm.trans hd')
    exact .inr rfl
  · obtain rfl := Option.some.inj hd
    obtain rfl := Option.some.inj hd'
    cases limit with
    | maxGlobalVars => exact .inl ⟨.dict false 0, List.mem_singleton_self _, by decide⟩
    | _ => exact .inr rfl
  · cases hd

end Heap

end BoundedVars
