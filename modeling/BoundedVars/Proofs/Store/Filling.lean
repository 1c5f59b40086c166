import BoundedVars.Proofs.Store.Compartments
import Mathlib.Data.Finset.Card

/-!
# Filling a compartment

Variables are written to one compartment, and none is ever removed.  A `Write` is what is tried; it
is valid if its key and value pass the checks (`Write.valid?`).  The valid ones take effect as long
as there is room, or when their key is there already (`Vars.fill`), and the others do nothing, so
the compartment ends up with a certain part of what it would hold without any capacity: the first so
many of the entries (`Vars.fillAll_eq_take`).  Which these are can be said without going through the
states of the store: `Vars.keys_fillAll` and `Vars.get?_fillAll`.
-/

namespace BoundedVars

/-! ### Variables with a capacity -/

namespace Vars

variable {capacity : Nat} {vars : Vars} {entries : List (String × String)}

/-- Variables after another one was written, if it was there already or there was room. -/
def fill (capacity : Nat) (vars : Vars) (e : String × String) : Vars :=
  if vars.contains e.1 = true ∨ vars.size < capacity then vars.insert e.1 e.2 else vars

/-- Variables after others were written one after another, as far as there was room. -/
def fillAll (capacity : Nat) (vars : Vars) (entries : List (String × String)) : Vars :=
  entries.foldl (fill capacity) vars

/-- The keys of entries, each once. -/
def keysOf (entries : List (String × String)) : Finset String :=
  (entries.map (·.1)).toFinset

/-- **What is kept of more variables stays the first of them**, whatever is written. -/
theorem fill_take (capacity : Nat) (vars : Vars) (e : String × String) :
    fill capacity (vars.take capacity) e = (Table.insert vars e.1 e.2).take capacity := by
  have hsize := Table.size_take capacity vars
  rw [fill]
  by_cases hroom : vars.size < capacity
  · -- Nothing was left out so far, and there is room for one more.
    have hinserted : (Table.insert vars e.1 e.2).size ≤ capacity := by
      rw [Table.size_insert]
      split_ifs
      · exact Nat.le_of_lt hroom
      · exact hroom
    rw [Table.take_of_size_le (Nat.le_of_lt hroom), if_pos (Or.inr hroom),
      Table.take_of_size_le hinserted]
  · have hfull : ¬(Table.take capacity vars).size < capacity := by omega
    by_cases hkept : (vars.take capacity).contains e.1 = true
    · rw [if_pos (Or.inl hkept), Table.take_insert_of_contains hkept]
    · rw [if_neg (not_or.mpr ⟨hkept, hfull⟩),
        Table.take_insert_of_not_contains (Nat.not_lt.mp hroom) (by simpa using hkept)]

/-- **The first entries are kept** of the table that would hold all of them. -/
theorem fillAll_eq_take (capacity : Nat) (entries : List (String × String)) :
    fillAll capacity .empty entries = (Table.ofList entries).take capacity := by
  induction entries using List.reverseRecOn with
  | nil =>
    rw [Table.take_of_size_le (Nat.zero_le capacity)]
    rfl
  | append_singleton entries e ih =>
    rw [Table.ofList_append_singleton, ← fill_take, ← ih, fillAll, List.foldl_append]
    rfl

/-- The keys are the first ones mentioned. -/
theorem keys_fillAll (capacity : Nat) (entries : List (String × String)) :
    (fillAll capacity .empty entries).keys = (entries.map (·.1)).eraseDups.take capacity := by
  rw [fillAll_eq_take, Table.keys_take, Table.keys_ofList]

/-- Each has the last value given for it. -/
theorem get?_fillAll {key : String} (h : key ∈ (fillAll capacity .empty entries).keys) :
    (fillAll capacity .empty entries).get? key = entries.reverse.lookup key := by
  rw [fillAll_eq_take] at h ⊢
  rw [Table.get?_take_of_mem h, Table.get?_ofList]

theorem keysOf_append (first second : List (String × String)) :
    keysOf (first ++ second) = keysOf first ∪ keysOf second := by
  rw [keysOf, List.map_append, List.toFinset_append, keysOf, keysOf]

theorem keysOf_eq_of_perm {other : List (String × String)} (h : entries.Perm other) :
    keysOf entries = keysOf other :=
  List.toFinset_eq_of_perm _ _ (h.map _)

theorem size_ofList (entries : List (String × String)) :
    (Table.ofList entries).size = (keysOf entries).card := by
  have hkeys : (Table.ofList entries).keys.toFinset = keysOf entries := by
    ext key
    rw [Table.keys_ofList, List.mem_toFinset, List.mem_eraseDups, keysOf, List.mem_toFinset]
  rw [← hkeys, List.toFinset_card_of_nodup (Table.nodup_keys_ofList entries), Table.length_keys]

/-- As many variables are there as there are keys, up to the capacity. -/
theorem size_fillAll (capacity : Nat) (entries : List (String × String)) :
    (fillAll capacity .empty entries).size = min capacity (keysOf entries).card := by
  rw [fillAll_eq_take, Table.size_take, size_ofList]

/-- If there are no more keys than there is room for, nothing is left out. -/
theorem fillAll_of_card_le (h : (keysOf entries).card ≤ capacity) :
    fillAll capacity .empty entries = Table.ofList entries := by
  rw [fillAll_eq_take, Table.take_of_size_le]
  rw [size_ofList]
  exact h

/-- As long as there are no more keys than there is room for, each of them finds its place. -/
theorem hasRoom_fillAll {e : String × String} {rest : List (String × String)}
    (h : (keysOf (entries ++ e :: rest)).card ≤ capacity) :
    (fillAll capacity .empty entries).contains e.1 = true ∨
      (fillAll capacity .empty entries).size < capacity := by
  have hkey : e.1 ∈ keysOf (e :: rest) := by
    rw [keysOf, List.map_cons, List.toFinset_cons]
    exact Finset.mem_insert_self _ _
  rw [keysOf_append] at h
  by_cases hmem : e.1 ∈ keysOf entries
  · have hcard : (keysOf entries).card ≤ capacity :=
      (Finset.card_le_card Finset.subset_union_left).trans h
    rw [fillAll_of_card_le hcard]
    left
    rw [Table.contains_iff, Table.keys_ofList, List.mem_eraseDups]
    exact List.mem_toFinset.mp hmem
  · -- A new key is one more than there were.
    have hlt : (keysOf entries).card < capacity := by
      have hinsert : insert e.1 (keysOf entries) ⊆ keysOf entries ∪ keysOf (e :: rest) :=
        Finset.insert_subset (Finset.mem_union_right _ hkey) Finset.subset_union_left
      have hcard := Finset.card_le_card hinsert
      rw [Finset.card_insert_of_notMem hmem] at hcard
      omega
    right
    rw [size_fillAll]
    exact (Nat.min_le_right _ _).trans_lt hlt

/-- The value given last depends only on what is given for the key. -/
theorem lookup_reverse_congr {other : List (String × String)} {key : String}
    (h : other.filter (·.1 == key) = entries.filter (·.1 == key)) :
    other.reverse.lookup key = entries.reverse.lookup key := by
  have hfiltered (list : List (String × String)) :
      list.lookup key = (list.filter (·.1 == key)).lookup key := by
    induction list with
    | nil => rfl
    | cons e rest ih =>
      by_cases he : e.1 = key
      · rw [List.filter_cons_of_pos (by simpa using he), List.lookup_cons, List.lookup_cons, he,
          beq_self_eq_true]
      · rw [List.filter_cons_of_neg (by simpa using he), List.lookup_cons,
          beq_false_of_ne (Ne.symm he), ih]
  rw [hfiltered, List.filter_reverse, h, ← List.filter_reverse, ← hfiltered]

end Vars

/-! ### Writes -/

/-- A variable that somebody tries to write, with whatever for its key and anything but nothing for
its value. -/
structure Write where
  key : Value
  value : Value
  isSome : value ≠ .none

namespace Write

/-- The entry that a valid write makes: its key and its value pass the checks of a store with these
limits. -/
def valid? (limits : Value) (w : Write) : Option (String × String) :=
  match (Store.new limits).checkKey w.key, (Store.new limits).checkValue w.value with
  | .ok key, .ok (some value) => some (key, value)
  | _, _ => none

/-- The entries that the valid ones among writes make. -/
def entries (limits : Value) (ws : List Write) : List (String × String) :=
  ws.filterMap (valid? limits)

/-- Writing to a compartment. -/
def operation (place : Compartment) (w : Write) : Store.Operation :=
  match place with
  | .global => .setGlobal w.key w.value
  | .script name => .setScript (.text name) w.key w.value

end Write

namespace Store

variable {s : Store} {place : Compartment} {limits : Value} {capacity : Nat}

theorem outcome_write (hplace : IsNamed place) (s : Store) (w : Write) :
    s.outcome (w.operation place) = s.writeChecked place w.key w.value := by
  cases place with
  | global => rfl
  | script name =>
    have hname : checkScript (.text name) = .ok name := checkScript_eq_ok_iff.mpr ⟨rfl, hplace⟩
    rw [Write.operation, outcome, setScript, hname]

/-- A write whose key or value does not pass is refused. -/
theorem writeChecked_of_invalid (hlimits : s.limits = limits) {w : Write}
    (hinvalid : w.valid? limits = none) (place : Compartment) :
    ∃ failure, s.writeChecked place w.key w.value = s.refuse failure := by
  have hkey := checkKey_congr (lengthBound_congr (t := new limits) hlimits _) w.key
  have hvalue := checkValue_congr (lengthBound_congr (t := new limits) hlimits _) w.value
  rw [Write.valid?, ← hkey, ← hvalue] at hinvalid
  unfold writeChecked
  cases hk : s.checkKey w.key with
  | error failure => exact ⟨failure, rfl⟩
  | ok key =>
    cases hv : s.checkValue w.value with
    | error failure => exact ⟨failure, rfl⟩
    | ok value =>
      rw [hk, hv] at hinvalid
      cases value with
      | some value => cases hinvalid
      | none =>
        -- Only nothing passes as nothing to write.
        refine absurd ?_ w.isSome
        cases hw : w.value with
        | none => rfl
        | text text =>
          rw [hw, checkValue_text, Except.bind_eq_ok_iff] at hv
          obtain ⟨bound, -, hv⟩ := hv
          cases (ite_throw_eq_ok_iff.mp hv).2
        | _ =>
          rw [hw] at hv
          cases hv

/-- A valid write puts its entry into the compartment, if there is room. -/
theorem writeChecked_of_valid (hlimits : s.limits = limits)
    (hcapacity : limits.limit (capacityLimit place) = .ok (.int capacity)) {w : Write}
    {e : String × String} (hvalid : w.valid? limits = some e) :
    s.writeChecked place w.key w.value = s.put place e.1 e.2 (.int capacity) := by
  have hkey := checkKey_congr (lengthBound_congr (t := new limits) hlimits _) w.key
  have hvalue := checkValue_congr (lengthBound_congr (t := new limits) hlimits _) w.value
  rw [Write.valid?, ← hkey, ← hvalue] at hvalid
  unfold writeChecked
  split at hvalid
  · rename_i key value hk hv
    obtain rfl := Option.some.inj hvalid
    rw [hk, hv, Except.ok_bind, Except.ok_bind]
    dsimp only [pure, Except.pure]
    rw [write, hlimits, hcapacity]
  · cases hvalid

/-- **What a write leaves**: if it is valid it fills the compartment, and if not it does nothing. -/
theorem vars_outcome_write (hplace : IsNamed place) (hlimits : s.limits = limits)
    (hcapacity : limits.limit (capacityLimit place) = .ok (.int capacity)) (w : Write) :
    (s.outcome (w.operation place)).store.vars place =
      Vars.fillAll capacity (s.vars place) (w.valid? limits).toList := by
  rw [outcome_write hplace]
  cases hentry : w.valid? limits with
  | none =>
    obtain ⟨failure, hrefused⟩ := writeChecked_of_invalid hlimits hentry place
    rw [hrefused]
    rfl
  | some e =>
    rw [writeChecked_of_valid hlimits hcapacity hentry, put_int]
    have hfill : Vars.fillAll capacity (s.vars place) (some e).toList =
        Vars.fill capacity (s.vars place) e := rfl
    rw [hfill, Vars.fill]
    simp only [Int.ofNat_lt]
    split_ifs
    · rw [accept, vars_withVars_self]
    · rw [store_reject]

/-- A valid write succeeds if its key is there or there is room. -/
theorem result_outcome_write (hplace : IsNamed place) (hlimits : s.limits = limits)
    (hcapacity : limits.limit (capacityLimit place) = .ok (.int capacity)) {w : Write}
    {e : String × String} (hvalid : w.valid? limits = some e)
    (hroom : (s.vars place).contains e.1 = true ∨ (s.vars place).size < capacity) :
    (s.outcome (w.operation place)).result = .ok () := by
  rw [outcome_write hplace, writeChecked_of_valid hlimits hcapacity hvalid, put_int,
    if_pos (hroom.imp_right Int.ofNat_lt.mpr)]
  rfl

/-- **Writes one after another** fill a compartment with the entries of the valid ones. -/
theorem vars_after_writes (hplace : IsNamed place) (hlimits : s.limits = limits)
    (hcapacity : limits.limit (capacityLimit place) = .ok (.int capacity)) (ws : List Write) :
    (s.after (ws.map (Write.operation place))).vars place =
      Vars.fillAll capacity (s.vars place) (Write.entries limits ws) := by
  induction ws generalizing s with
  | nil => rfl
  | cons w rest ih =>
    have hentries : Write.entries limits (w :: rest) =
        (w.valid? limits).toList ++ Write.entries limits rest := by
      rw [Write.entries, List.filterMap_cons]
      cases w.valid? limits <;> rfl
    rw [List.map_cons, after_cons, ih ((step_outcome s _).limits_eq.trans hlimits),
      vars_outcome_write hplace hlimits hcapacity, hentries, Vars.fillAll, Vars.fillAll,
      Vars.fillAll, List.foldl_append]

/-- While no more keys are written than there is room for, every valid write succeeds. -/
theorem result_after_writes (hplace : IsNamed place)
    (hcapacity : limits.limit (capacityLimit place) = .ok (.int capacity))
    {before rest : List Write} {w : Write} {e : String × String} (hvalid : w.valid? limits = some e)
    (hcard : (Vars.keysOf (Write.entries limits (before ++ w :: rest))).card ≤ capacity) :
    (((new limits).after (before.map (Write.operation place))).outcome
      (w.operation place)).result = .ok () := by
  refine result_outcome_write hplace (limits_after _) hcapacity hvalid ?_
  rw [vars_after_writes hplace rfl hcapacity, vars_new]
  refine Vars.hasRoom_fillAll (?_ : (Vars.keysOf (_ ++ e :: Write.entries limits rest)).card ≤ _)
  rw [Write.entries, List.filterMap_append, List.filterMap_cons, hvalid] at hcard
  exact hcard

end Store

end BoundedVars
