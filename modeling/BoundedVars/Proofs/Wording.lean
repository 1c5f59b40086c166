import BoundedVars.Context
import BoundedVars.Datum
import BoundedVars.Proofs.Collection
import BoundedVars.Proofs.Configuration
import BoundedVars.Proofs.LayerKeys
import BoundedVars.Proofs.Numeral

/-!
# Failures and their wording

Whatever goes wrong can be put into words, with one exception: a failure about an absent key has no
wording if the key cannot be written out (`Heap.message_eq_error_iff`).

A key is absent only where somebody asks for it out of the blue.  A mapping that is gone through has
the keys that it gives (`Heap.findWithin_ne_none_of_any`), and one that says that it contains a key
has it (`Heap.findWithin_ne_none_of_contains`).  So copying a mapping, showing it, and asking a
context for its script all fail, if they do, with failures that have a wording
(`Heap.worded_copyEntries`, `Heap.worded_datumWithin`, `Heap.worded_scriptName`).
-/

namespace BoundedVars

open Except

/-- A failure that has a wording, whatever is in memory. -/
def Failure.IsWorded : Failure → Prop
  | .absent _ => False
  | _ => True

/-- A computation that fails only with failures that have a wording. -/
abbrev Worded {α : Type} (x : Except Failure α) : Prop :=
  FailsOnly Failure.IsWorded x

/-! ### Messages -/

namespace Heap

variable {h : Heap} {failure unshown : Failure}

theorem CannotBeWritten.isWorded (hfailure : CannotBeWritten failure) : failure.IsWorded := by
  rcases hfailure with rfl | rfl <;> trivial

theorem worded_written (h : Heap) (v : Value) : Worded (h.written v) :=
  fun failure hfails => (failsOnly_written h v failure hfails).isWorded

/-- An integer cannot be written out if it has too many digits. -/
theorem written_int_eq_error_iff {n : Int} :
    h.written (.int n) = .error unshown ↔
      10 ^ Numeral.maxDigits ≤ n.natAbs ∧ unshown = .integerTooLong := by
  have hwritten : h.written (.int n) = writtenInteger n := rfl
  rw [hwritten, writtenInteger, ← Nat.not_lt, ← Numeral.length_decimal_le_iff, Nat.not_le]
  split_ifs with hlong
  · simp [hlong, eq_comm]
  · simp [hlong]

theorem worded_plainText (h : Heap) (v : Value) : Worded (h.plainText v) := by
  cases v with
  | text s => exact failsOnly_ok s
  | _ => exact worded_written h _

/-- **A failure has no wording** only if it is about an absent key that cannot be written out. -/
theorem message_eq_error_iff :
    h.message failure = .error unshown ↔
      ∃ key, failure = .absent key ∧ h.written key = .error unshown := by
  unfold message
  cases failure with
  | absent key => simp [Failure.message]
  | _ => exact iff_of_false nofun nofun

/-- Finding a wording fails only in the two ways in which writing something out fails. -/
theorem failsOnly_message (h : Heap) (failure : Failure) :
    FailsOnly CannotBeWritten (h.message failure) := by
  intro unshown hfails
  obtain ⟨key, -, hwritten⟩ := message_eq_error_iff.mp hfails
  exact failsOnly_written h key unshown hwritten

theorem exists_message (h : Heap) (hworded : failure.IsWorded) :
    ∃ wording, h.message failure = .ok wording := by
  cases hmessage : h.message failure with
  | ok wording => exact ⟨wording, rfl⟩
  | error unshown =>
    obtain ⟨key, rfl, -⟩ := message_eq_error_iff.mp hmessage
    exact hworded.elim

end Heap

/-! ### Tables and sequences -/

theorem Entries.worded_find? (entries : Entries) (key : Value) : Worded (entries.find? key) := by
  unfold Entries.find?
  split
  · exact failsOnly_error trivial
  · exact failsOnly_ok _

theorem Entries.worded_put (entries : Entries) (key value : Value) :
    Worded (entries.put key value) := by
  unfold Entries.put
  split
  · exact failsOnly_error trivial
  · exact failsOnly_ok _

theorem Entries.worded_putAll (entries : Entries) (new : List (Value × Value)) :
    Worded (entries.putAll new) :=
  failsOnly_foldlM (fun entries e => entries.worded_put e.1 e.2) new entries

theorem worded_distinct (values : List Value) : Worded (distinct values) :=
  (Entries.worded_putAll _ _).bind fun _ => failsOnly_ok _

/-- Without repetitions there are the same elements, as far as keys are told apart. -/
theorem any_of_distinct {values keys : List Value} (hkeys : distinct values = .ok keys)
    (k : Value) : keys.any (· == k) = values.any (· == k) := by
  rw [distinct_eq] at hkeys
  obtain ⟨-, -, rfl⟩ := map_eq_ok_iff.mp hkeys
  rw [← contains_eq_any, contains_asKeys]

/-- A key is absent from a table only if it is not there. -/
theorem Entries.contains_of_find?_eq_none {entries : Entries} {key : Value}
    (hfind : entries.find? key = .ok none) : entries.contains key = false := by
  unfold Entries.find? at hfind
  split at hfind
  · cases hfind
  · rw [← Table.isSome_get?, Except.ok.inj hfind]
    rfl

theorem Value.worded_itemAt (sequence : Sequence) (items : List Value) (key : Value) :
    Worded (itemAt sequence items key) := by
  have hat (n : Int) : Worded (itemAt.at? sequence items n) := by
    unfold itemAt.at?
    dsimp only
    repeat' split
    all_goals first
      | exact failsOnly_ok _
      | exact failsOnly_error trivial
  cases key with
  | int | bool => exact hat _
  | _ => exact failsOnly_error trivial

namespace Heap

variable {h : Heap} {v key : Value} {entries : Entries}

/-! ### Keys that are there -/

theorem error_ne_none (failure : Failure) :
    (.error failure : Except Failure (Option Value)) ≠ .ok none := by
  intro hnone
  cases hnone

theorem some_map_ne_none (x : Except Failure Value) : some <$> x ≠ .ok none := by
  intro hnone
  obtain ⟨_, -, hsome⟩ := map_eq_ok_iff.mp hnone
  cases hsome

/-- A search that has found something has not found nothing. -/
theorem ne_none_of_isSome {x : Except Failure (Option Value)}
    (hsome : (do return (← x).isSome) = Except.ok true) : x ≠ .ok none := by
  rintro rfl
  cases hsome

/-- A sequence has an item at a position or fails in its own way. -/
theorem findWithin_ne_none_of_sequence {sequence : Sequence} {items : List Value} (reach : Nat)
    (hsequence : v.sequence? = some (sequence, items)) : h.findWithin reach v key ≠ .ok none := by
  unfold findWithin
  rw [hsequence]
  exact some_map_ne_none _

/-- A configuration has no item under a key only if none of its layers has. -/
theorem findWithin_config_eq_none_iff {reach address : Nat} :
    h.findWithin (reach + 1) (.config address) key = .ok none ↔
      (h.config address).own.find? key = .ok none ∧
        (∀ source ∈ (h.config address).sources, h.findWithin reach source key = .ok none) ∧
        Entries.find? ⟨Setting.defaults⟩ key = .ok none := by
  rw [← findSomeM?_eq_none_iff, findWithin]
  constructor
  · intro hfind
    obtain ⟨_ | value, hown, hfind⟩ := bind_eq_ok_iff.mp hfind
    · obtain ⟨_ | value, hsources, hfind⟩ := bind_eq_ok_iff.mp hfind
      · exact ⟨hown, hsources, hfind⟩
      · cases hfind
    · cases hfind
  · rintro ⟨hown, hsources, hdefaults⟩
    exact bind_eq_ok_iff.mpr ⟨none, hown, bind_eq_ok_iff.mpr ⟨none, hsources, hdefaults⟩⟩

/-- The keys of a configuration are those of its layers. -/
theorem any_of_elementsWithin_config {reach address : Nat} {xs : List Value}
    (hxs : h.elementsWithin (reach + 1) (.config address) = .ok xs)
    (hkey : xs.any (· == key) = true) :
    (h.config address).own.contains key = true ∨
      (∃ source ∈ (h.config address).sources, ∃ keys, h.elementsWithin reach source = .ok keys ∧
        keys.any (· == key) = true) ∨
      Table.contains ⟨Setting.defaults⟩ key = true := by
  rw [elementsWithin] at hxs
  obtain ⟨keys, hkeys, hxs⟩ := bind_eq_ok_iff.mp hxs
  rw [any_of_distinct hxs, List.any_append, Bool.or_eq_true] at hkey
  rcases hkey with hkey | hkey
  · -- Each source adds its keys to those that are there already.
    refine Or.inr (foldlM_induction (P := fun keys => keys.any (· == key) = true →
      (∃ source ∈ (h.config address).sources, ∃ keys, h.elementsWithin reach source = .ok keys ∧
        keys.any (· == key) = true) ∨ Table.contains ⟨Setting.defaults⟩ key = true)
      (fun source hsource keys next ih hnext hkey => ?_) (fun hkey => Or.inr ?_) hkeys hkey)
    · obtain ⟨added, hadded, hnext⟩ := bind_eq_ok_iff.mp hnext
      rw [any_of_distinct hnext, List.any_append, Bool.or_eq_true] at hkey
      rcases hkey with hkey | hkey
      · exact ih hkey
      · exact Or.inl ⟨source, List.mem_reverse.mp hsource, added, hadded, hkey⟩
    · rw [contains_eq_any]
      exact hkey
  · rw [contains_eq_any]
    exact Or.inl hkey

/-- **A value has the keys that it gives** when it is gone through. -/
theorem findWithin_ne_none_of_any {reach : Nat} {xs : List Value}
    (hxs : h.elementsWithin reach v = .ok xs) (hkey : xs.any (· == key) = true) :
    h.findWithin reach v key ≠ .ok none := by
  fun_induction h.findWithin reach v key generalizing xs with
  | case1 => exact some_map_ne_none _
  | case2 reach key attributed address =>
    intro hfind
    obtain rfl := Except.ok.inj ((elementsWithin_dict reach attributed address).symm.trans hxs)
    rw [← contains_eq_any, Entries.contains_of_find?_eq_none hfind] at hkey
    cases hkey
  | case3 reach key serial entries hkept =>
    intro hfind
    obtain rfl := Except.ok.inj ((elementsWithin_view reach entries hkept).symm.trans hxs)
    rw [← contains_eq_any, Entries.contains_of_find?_eq_none hfind] at hkey
    cases hkey
  | case5 key serial entries value hreplaced reach _ ih =>
    refine ih ?_ hkey
    simpa [elementsWithin, Value.sequence?, hreplaced] using hxs
  | case7 key address reach config _ =>
    rename_i ih
    change h.findWithin (reach + 1) (.config address) key ≠ .ok none
    rw [ne_eq, findWithin_config_eq_none_iff]
    rintro ⟨hown, hsources, hdefaults⟩
    rcases any_of_elementsWithin_config hxs hkey with hkey | ⟨source, hsource, keys, hkeys, hkey⟩ |
      hkey
    · rw [Entries.contains_of_find?_eq_none hown] at hkey
      cases hkey
    · exact ih source hkeys hkey (hsources source hsource)
    · rw [Entries.contains_of_find?_eq_none hdefaults] at hkey
      cases hkey
  | case4 | case6 | case8 => exact error_ne_none _

/-- What cannot be a key is not absent either: asking for it is a failure of its own. -/
theorem findWithin_ne_none_of_unhashable {kind : String} (reach : Nat)
    (hkey : key.unhashable? = some kind) : h.findWithin reach v key ≠ .ok none := by
  fun_induction h.findWithin reach v key with
  | case1 => exact some_map_ne_none _
  | case2 | case3 =>
    rw [Entries.find?_of_unhashable hkey]
    exact error_ne_none _
  | case5 _ _ _ _ _ _ _ ih => exact ih hkey
  | case7 key address reach config =>
    rw [Entries.find?_of_unhashable hkey, error_bind]
    exact error_ne_none _
  | case4 | case6 | case8 => exact error_ne_none _

/-- **A mapping that is gone through has the keys that it gives**, whatever these are. -/
theorem find?_ne_none_of_mem {xs : List Value} (hxs : h.elements v = .ok xs) (hkey : key ∈ xs) :
    h.find? v key ≠ .ok none := by
  cases hkind : key.unhashable? with
  | some kind => exact findWithin_ne_none_of_unhashable h.reach hkind
  | none =>
    have hself : (key == key) = true := Value.Hashable.beq_self hkind
    exact findWithin_ne_none_of_any hxs (List.any_eq_true.mpr ⟨key, hkey, hself⟩)

/-- Anything but a configuration has the keys that it says it contains. -/
theorem findWithin_ne_none_of_ne_config {reach : Nat} (hv : ∀ address, v ≠ .config address)
    (hcontains : h.containsWithin reach v key = .ok true) :
    h.findWithin reach v key ≠ .ok none := by
  unfold containsWithin at hcontains
  cases v with
  | dict | view => exact ne_none_of_isSome hcontains
  | text | bytes | list | tuple | limits => exact findWithin_ne_none_of_sequence _ rfl
  | config address => exact absurd rfl (hv address)
  | _ => cases hcontains

/-- **A value has the keys that it says it contains.** -/
theorem findWithin_ne_none_of_contains {reach : Nat}
    (hcontains : h.containsWithin reach v key = .ok true) :
    h.findWithin reach v key ≠ .ok none := by
  induction reach generalizing v with
  | zero =>
    cases v with
    | config address => cases hcontains
    | _ => exact findWithin_ne_none_of_ne_config (by simp) hcontains
  | succ reach ih =>
    cases v with
    | config address =>
      rw [ne_eq, findWithin_config_eq_none_iff]
      rintro ⟨hown, hsources, hdefaults⟩
      -- The layers are asked in turn, so none of them can have said yes.
      obtain ⟨own, hasked, hcontains⟩ := bind_eq_ok_iff.mp hcontains
      obtain rfl := Except.ok.inj (hown.symm.trans hasked)
      obtain ⟨_ | _, hany, hcontains⟩ := bind_eq_ok_iff.mp hcontains
      · exact ne_none_of_isSome hcontains hdefaults
      · obtain ⟨source, hsource, hin⟩ := exists_of_anyM_eq_true hany
        exact ih hin (hsources source hsource)
    | _ => exact findWithin_ne_none_of_ne_config (by simp) hcontains

/-! ### Copying and showing values -/

theorem worded_elementsWithin (h : Heap) (reach : Nat) (v : Value) :
    Worded (h.elementsWithin reach v) := by
  fun_induction h.elementsWithin reach v with
  | case5 _ _ _ _ _ _ ih => exact ih
  | case7 address reach config _ ih =>
    refine FailsOnly.bind (failsOnly_foldlM (fun keys source => ?_) _ _) fun _ =>
      worded_distinct _
    exact (ih source).bind fun _ => worded_distinct _
  | case1 | case2 | case3 => exact failsOnly_ok _
  | case4 | case6 | case8 => exact failsOnly_error trivial

theorem worded_elements (h : Heap) (v : Value) : Worded (h.elements v) :=
  h.worded_elementsWithin h.reach v

theorem worded_findWithin (h : Heap) (reach : Nat) (v key : Value) :
    Worded (h.findWithin reach v key) := by
  fun_induction h.findWithin reach v key with
  | case1 _ _ key sequence items =>
    refine fun failure hfails => Value.worded_itemAt sequence items key failure ?_
    cases hitem : Value.itemAt sequence items key with
    | ok item =>
      rw [hitem] at hfails
      cases hfails
    | error other =>
      rw [hitem] at hfails
      cases hfails
      rfl
  | case2 | case3 => exact Entries.worded_find? _ _
  | case5 _ _ _ _ _ _ _ ih => exact ih
  | case7 key address reach config _ ih =>
    refine (Entries.worded_find? _ _).bind fun own => ?_
    cases own with
    | some value => exact failsOnly_ok _
    | none =>
      refine (failsOnly_findSomeM? ih _).bind fun layer => ?_
      cases layer with
      | some value => exact failsOnly_ok _
      | none => exact Entries.worded_find? _ _
  | case4 | case6 | case8 => exact failsOnly_error trivial

/-- Asking for an item that is there. -/
theorem worded_item (hfind : h.find? v key ≠ .ok none) : Worded (h.item v key) := by
  unfold item
  intro failure hfails
  rcases bind_eq_error_iff.mp hfails with hfails | ⟨found, hfound, hfails⟩
  · exact h.worded_findWithin h.reach v key failure hfails
  · cases found with
    | some value => cases hfails
    | none => exact absurd hfound hfind

/-- Asking for the item under each key, when a value is gone through. -/
theorem worded_items (h : Heap) (v : Value) {α : Type} {f : Value → Value → Except Failure α}
    (hf : ∀ key item, Worded (f key item)) :
    Worded (do (← h.elements v).mapM fun key => do f key (← h.item v key)) := by
  intro failure hfails
  rcases bind_eq_error_iff.mp hfails with hfails | ⟨keys, hkeys, hfails⟩
  · exact h.worded_elements v failure hfails
  · obtain ⟨before, key, after, rfl, -, hfails⟩ := mapM_eq_error_iff.mp hfails
    have hitem := worded_item (find?_ne_none_of_mem hkeys (List.mem_append_right before
      List.mem_cons_self))
    exact (hitem.bind fun item => hf key item) failure hfails

theorem worded_collected (h : Heap) (v : Value) : Worded (h.collected v) := by
  have hitems := h.worded_items v (f := fun key item => .ok (key, item)) fun _ _ => failsOnly_ok _
  have hcollected : h.collected v =
      (do (← h.elements v).mapM fun key => do return (key, ← h.item v key)) >>=
        Entries.putAll .empty := by
    rw [collected, bind_assoc]
  rw [hcollected]
  exact hitems.bind fun entries => Entries.worded_putAll .empty entries

theorem worded_contents (h : Heap) (v : Value) : Worded (h.contents v) := by
  unfold contents
  split
  · exact failsOnly_ok _
  · split
    · exact failsOnly_ok _
    · exact h.worded_collected _
  · exact h.worded_collected _

theorem worded_lengthWithin (h : Heap) (reach : Nat) (v : Value) :
    Worded (h.lengthWithin reach v) := by
  fun_induction h.lengthWithin reach v with
  | case1 | case2 | case3 => exact failsOnly_ok _
  | case5 _ _ _ _ _ _ ih => exact ih
  | case6 =>
    refine FailsOnly.bind (failsOnly_foldlM (fun keys source => ?_) _ _) fun _ =>
      (worded_distinct _).bind fun _ => failsOnly_ok _
    exact (h.worded_elementsWithin _ source).bind fun _ => worded_distinct _
  | case4 | case7 => exact failsOnly_error trivial

theorem worded_truthWithin (h : Heap) (reach : Nat) (v : Value) :
    Worded (h.truthWithin reach v) := by
  induction reach generalizing v with
  | zero =>
    cases v <;> first
      | exact failsOnly_ok _
      | exact failsOnly_error trivial
      | exact (h.worded_lengthWithin _ _).bind fun _ => failsOnly_ok _
  | succ reach ih =>
    cases v with
    | config address =>
      unfold truthWithin
      dsimp only
      split_ifs
      · exact (failsOnly_anyM ih _).bind fun _ => failsOnly_ok _
      · exact failsOnly_ok _
    | _ => first
      | exact failsOnly_ok _
      | exact (h.worded_lengthWithin _ _).bind fun _ => failsOnly_ok _

theorem worded_isTruthy (h : Heap) (v : Value) : Worded (h.isTruthy v) :=
  h.worded_truthWithin h.reach v

theorem worded_putPairs (h : Heap) (entries : Entries) (position : Nat) (pairs : List Value) :
    Worded (h.putPairs entries position pairs) := by
  induction pairs generalizing entries position with
  | nil => exact failsOnly_ok entries
  | cons pair rest ih =>
    unfold putPairs
    split
    · split_ifs
      · exact failsOnly_error trivial
      · -- The pair could not be gone through, which is a failure of its own.
        rename_i failure hfails _
        exact failsOnly_error (h.worded_elements pair failure hfails)
    · exact (entries.worded_put _ _).bind fun entries => ih entries (position + 1)
    · exact failsOnly_error trivial

theorem worded_putEntries (h : Heap) (entries : Entries) (v : Value) :
    Worded (h.putEntries entries v) := by
  unfold putEntries
  split_ifs
  · exact (h.worded_contents v).bind fun contents => entries.worded_putAll _
  · exact (h.worded_elements v).bind fun pairs => h.worded_putPairs entries 0 pairs

/-- **Copying entries** fails with a wording. -/
theorem worded_copyEntries (h : Heap) (v : Value) : Worded (h.copyEntries v) := by
  refine (h.worded_isTruthy v).bind fun truth => ?_
  split_ifs
  · exact h.worded_putEntries .empty v
  · exact failsOnly_ok _

/-- **Showing a value** fails with a wording. -/
theorem worded_datumWithin (h : Heap) (nameOf : Value → Option String) (depth : Nat) (v : Value) :
    Worded (h.datumWithin nameOf depth v) := by
  induction depth generalizing v with
  | zero => exact failsOnly_error trivial
  | succ depth ih =>
    -- Keys and values are shown less deep than the mapping that has them.
    have hpairs (entries : List (Value × Value)) : Worded (entries.mapM fun e => do
        return (← h.datumWithin nameOf depth e.1, ← h.datumWithin nameOf depth e.2)) :=
      failsOnly_mapM (fun e => (ih e.1).bind fun _ => (ih e.2).bind fun _ => failsOnly_ok _) entries
    have hread (v : Value) := h.worded_items v (f := fun key item => do
      return (← h.datumWithin nameOf depth key, ← h.datumWithin nameOf depth item)) fun key item =>
        (ih key).bind fun _ => (ih item).bind fun _ => failsOnly_ok _
    unfold datumWithin
    cases v with
    | none | bool | int | text | float | bytes => exact failsOnly_ok _
    | list | tuple => exact (failsOnly_mapM ih _).bind fun _ => failsOnly_ok _
    | limits a b c d =>
      exact (ih _).bind fun _ => (ih _).bind fun _ => (ih _).bind fun _ => (ih _).bind fun _ =>
        failsOnly_ok _
    | view serial entries =>
      dsimp only
      split
      · exact (hpairs entries).bind fun _ => failsOnly_ok _
      · exact (hread _).bind fun _ => failsOnly_ok _
    | dict => exact (hpairs _).bind fun _ => failsOnly_ok _
    | config => exact (hread _).bind fun _ => failsOnly_ok _
    | _ =>
      dsimp only
      split <;> exact failsOnly_ok _

/-! ### Comparing values -/

theorem worded_compareBy (h : Heap) {same : Value → Value → Except Failure Bool}
    (hsame : ∀ v w, Worded (same v w)) (v w : Value) : Worded (h.compareBy same v w) := by
  have hzip (xs ys : List Value) : Worded ((xs.zip ys).allM fun e => same e.1 e.2) :=
    failsOnly_allM (fun e : Value × Value => hsame e.1 e.2) _
  -- Tables are compared entry by entry, and only if they are of one size.
  have htables (entries others : Entries) : Worded (Entries.compareBy same entries others) := by
    unfold Entries.compareBy
    split_ifs
    · refine failsOnly_allM (fun e => ?_) _
      split
      · exact hsame _ _
      · exact failsOnly_ok _
    · exact failsOnly_ok _
  unfold compareBy
  dsimp only
  split
  · split_ifs
    · exact hzip _ _
    · exact failsOnly_ok _
  · exact failsOnly_ok _
  · exact failsOnly_ok _
  · exact (hzip _ _).bind fun _ => failsOnly_ok _
  · exact (h.worded_contents v).bind fun _ => (h.worded_contents w).bind fun _ => htables _ _
  · exact failsOnly_ok _

theorem worded_equalWithin (h : Heap) (levels : Value → Nat) (depth steps : Nat) (v w : Value) :
    Worded (h.equalWithin levels depth steps v w) := by
  induction depth generalizing steps v w with
  | zero => exact failsOnly_error trivial
  | succ depth ih =>
    cases steps with
    | succ steps => exact ih steps v w
    | zero =>
      -- The parts are compared with all levels, less deep.
      have hsame (a b : Value) : Worded (if a.identity = b.identity then .ok true
          else h.equalWithin levels depth (levels (a.comparer b)) a b) := by
        split_ifs
        · exact failsOnly_ok true
        · exact ih _ a b
      unfold equalWithin
      dsimp only
      split_ifs
      · exact h.worded_compareBy hsame w v
      · exact h.worded_compareBy hsame v w

theorem worded_same (h : Heap) (v w : Value) : Worded (h.same v w) := by
  unfold same
  split_ifs
  · exact failsOnly_ok true
  · exact h.worded_equalWithin _ _ _ v w

theorem worded_holdsByte (bytes : List UInt8) (n : Int) : Worded (holdsByte bytes n) := by
  unfold holdsByte
  split_ifs
  · exact failsOnly_ok _
  · exact failsOnly_error trivial

/-- Asking anything but a configuration whether it contains a key. -/
theorem worded_containsWithin_of_ne_config (h : Heap) (reach : Nat)
    (hv : ∀ address, v ≠ .config address) (key : Value) :
    Worded (h.containsWithin reach v key) := by
  have hitems (items : List Value) : Worded (items.anyM fun item => h.same item key) :=
    failsOnly_anyM (fun item => h.worded_same item key) items
  unfold containsWithin
  cases v with
  | text =>
    cases key with
    | text => exact failsOnly_ok _
    | _ => exact failsOnly_error trivial
  | bytes =>
    cases key with
    | bytes => exact failsOnly_ok _
    | int | bool => exact worded_holdsByte _ _
    | _ => exact failsOnly_error trivial
  | list | tuple | limits => exact hitems _
  | dict | view => exact (h.worded_findWithin _ _ _).bind fun _ => failsOnly_ok _
  | config address => exact absurd rfl (hv address)
  | _ => exact failsOnly_error trivial

theorem worded_containsWithin (h : Heap) (reach : Nat) (v key : Value) :
    Worded (h.containsWithin reach v key) := by
  induction reach generalizing v with
  | zero =>
    cases v with
    | config address => exact failsOnly_error trivial
    | _ => exact h.worded_containsWithin_of_ne_config _ (by simp) key
  | succ reach ih =>
    cases v with
    | config address =>
      refine (Entries.worded_find? _ _).bind fun own => ?_
      split_ifs
      · exact failsOnly_ok _
      · refine (failsOnly_anyM (fun source => ih source) _).bind fun found => ?_
        split_ifs
        · exact failsOnly_ok _
        · exact (Entries.worded_find? _ _).bind fun _ => failsOnly_ok _
    | _ => exact h.worded_containsWithin_of_ne_config _ (by simp) key

/-! ### Scripts of contexts -/

theorem worded_get (h : Heap) (v key fallback : Value) : Worded (h.get v key fallback) := by
  cases v with
  | dict | view =>
    exact (h.worded_findWithin h.reach _ key).bind fun _ => failsOnly_ok _
  | config address =>
    intro failure hfails
    rcases bind_eq_error_iff.mp hfails with hfails | ⟨contained, hcontains, hfails⟩
    · exact h.worded_containsWithin h.reach _ key failure hfails
    · cases contained with
      | false => cases hfails
      | true => exact worded_item (findWithin_ne_none_of_contains hcontains) failure hfails
  | _ => exact failsOnly_error trivial

theorem worded_getAttribute (h : Heap) (v name : Value) : Worded (h.getAttribute v name) := by
  unfold getAttribute
  split
  · exact (Entries.worded_find? _ _).bind fun _ => failsOnly_ok _
  · exact failsOnly_ok _
  all_goals exact failsOnly_error trivial

theorem worded_lookup (h : Heap) (context name : Value) : Worded (h.lookup context name) := by
  unfold lookup
  split_ifs
  · exact h.worded_get _ _ _
  · split
    · exact h.worded_getAttribute _ _
    · exact h.worded_getAttribute _ _
    · exact failsOnly_error trivial

/-- **Asking a context for its script** fails with a wording. -/
theorem worded_scriptName (h : Heap) (context : Value) : Worded (h.scriptName context) := by
  unfold scriptName
  split
  · exact failsOnly_error trivial
  · refine (h.worded_lookup _ _).bind fun found => ?_
    split
    · exact failsOnly_error trivial
    · exact failsOnly_ok _
    · exact failsOnly_error trivial

end Heap

theorem Value.worded_makeLimits (serial : Nat) (given : List Value)
    (named : List (String × Value)) : Worded (Value.makeLimits serial given named) := by
  unfold makeLimits
  refine FailsOnly.bind (failsOnly_forIn (fun e _ => ?_) named _) fun _ => ?_
  · dsimp only
    repeat' split
    all_goals first
      | exact failsOnly_ok _
      | exact failsOnly_error trivial
  · dsimp only
    split_ifs
    · exact failsOnly_error trivial
    · exact failsOnly_ok _

end BoundedVars
