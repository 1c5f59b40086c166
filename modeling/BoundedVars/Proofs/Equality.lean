import BoundedVars.Equality
import BoundedVars.Proofs.Soundness

/-!
# Equality is symmetric

Which one of two values compares, and in what order the entries of mappings are gone through, can
make a difference only where a comparison fails.  In a sound memory a value equals another one
exactly if the other equals it (`Heap.Sound.equalIn_comm`), and entries that equal others are equal
to these (`Entries.compareBy_swap`) in any order (`Entries.compareBy_perm`).  Values that do not
contain themselves can be compared (`Heap.Sound.exists_sameIn_eq_ok`).

Here every comparison takes up one level of the depth to which values are followed.
-/

namespace Except

variable {ε α : Type} {p : α → Except ε Bool} {xs : List α}

theorem allM_eq_true_iff : xs.allM p = .ok true ↔ ∀ x ∈ xs, p x = .ok true := by
  induction xs with
  | nil => simp
  | cons x xs ih =>
    rw [List.allM_cons, bind_eq_ok_iff, List.forall_mem_cons, ← ih]
    constructor
    · rintro ⟨b, hb, hrest⟩
      cases b with
      | false => cases hrest
      | true => exact ⟨hb, hrest⟩
    · rintro ⟨hx, hrest⟩
      exact ⟨true, hx, hrest⟩

/-- If nothing fails, all elements are asked. -/
theorem allM_eq_ok {q : α → Bool} (hok : ∀ x ∈ xs, p x = .ok (q x)) :
    xs.allM p = .ok (xs.all q) := by
  induction xs with
  | nil => rfl
  | cons x xs ih =>
    obtain ⟨hx, hrest⟩ := List.forall_mem_cons.mp hok
    rw [List.allM_cons, hx, ok_bind, List.all_cons]
    cases q x with
    | false => rfl
    | true => exact ih hrest

/-- If nothing fails, there is an answer for all elements together. -/
theorem exists_allM_eq_ok (hok : ∀ x ∈ xs, ∃ b, p x = .ok b) : ∃ b, xs.allM p = .ok b := by
  choose! q hq using hok
  exact ⟨xs.all q, allM_eq_ok hq⟩

end Except

namespace BoundedVars

open Except

/-- Two comparisons agree: one of them says yes exactly if the other one does. -/
def Agree (first second : Except Failure Bool) : Prop :=
  first = .ok true ↔ second = .ok true

theorem Agree.refl (first : Except Failure Bool) : Agree first first := Iff.rfl

theorem Agree.symm {first second : Except Failure Bool} (hagree : Agree first second) :
    Agree second first := Iff.symm hagree

theorem Agree.trans {first second third : Except Failure Bool} (hfirst : Agree first second)
    (hsecond : Agree second third) : Agree first third := Iff.trans hfirst hsecond

/-- If both of them answer, the answers are the same. -/
theorem Agree.eq {first second : Except Failure Bool} (hagree : Agree first second)
    (hfirst : ∃ b, first = .ok b) (hsecond : ∃ b, second = .ok b) : first = second := by
  obtain ⟨a, rfl⟩ := hfirst
  obtain ⟨b, rfl⟩ := hsecond
  cases a <;> cases b <;> simp_all [Agree]

variable {h : Heap} {v w : Value} {entries others : Entries}
  {same : Value → Value → Except Failure Bool}

/-! ### Entries -/

namespace Entries

/-- **Entries equal others** if there are as many of these, and under each key something that is the
same. -/
theorem compareBy_eq_true_iff (hentries : entries.Proper) :
    compareBy same entries others = .ok true ↔ entries.size = others.size ∧
      ∀ key value, entries.get? key = some value →
        ∃ other, others.get? key = some other ∧ same value other = .ok true := by
  rw [compareBy]
  by_cases hsize : entries.size = others.size
  · rw [if_pos hsize, allM_eq_true_iff, and_iff_right hsize]
    constructor
    · intro hall key value hvalue
      obtain ⟨e, he, hkey, rfl⟩ := Table.exists_of_get? hvalue
      -- The entry has the same key, though maybe spelled otherwise.
      have hsame := hall e he
      rw [Table.get?_congr hkey] at hsame
      cases hother : others.get? key with
      | none =>
        rw [hother] at hsame
        cases hsame
      | some other =>
        rw [hother] at hsame
        exact ⟨other, rfl, hsame⟩
    · intro hall e he
      obtain ⟨other, hother, hsame⟩ := hall e.1 e.2 (hentries.get?_of_mem he)
      rw [hother]
      exact hsame
  · rw [if_neg hsize]
    simp [hsize]

theorem compareBy_swap (hentries : entries.Proper) (hothers : others.Proper)
    (hsame : ∀ value ∈ entries.values, ∀ other ∈ others.values,
      same value other = .ok true → same other value = .ok true)
    (hok : compareBy same entries others = .ok true) :
    compareBy same others entries = .ok true := by
  obtain ⟨hsize, hall⟩ := (compareBy_eq_true_iff hentries).mp hok
  refine (compareBy_eq_true_iff hothers).mpr ⟨hsize.symm, fun key other hother => ?_⟩
  -- There are as many keys, so none is left for the others alone.
  have hkeys : ∀ k ∈ others.keys, entries.contains k = true := by
    refine hentries.contains_of_size_eq hsize fun k hk => ?_
    obtain ⟨e, he, rfl⟩ := List.mem_map.mp hk
    obtain ⟨found, hfound, -⟩ := hall e.1 e.2 (hentries.get?_of_mem he)
    rw [← Table.isSome_get?, hfound]
    rfl
  have hcontains : entries.contains key = true := by
    obtain ⟨e, he, hkey, -⟩ := Table.exists_of_get? hother
    rw [← Table.contains_congr hkey]
    exact hkeys e.1 (Table.mem_keys_of_mem he)
  rw [← Table.isSome_get?, Option.isSome_iff_exists] at hcontains
  obtain ⟨value, hvalue⟩ := hcontains
  obtain ⟨found, hfound, hsameFound⟩ := hall key value hvalue
  obtain rfl := Option.some.inj (hfound.symm.trans hother)
  exact ⟨value, hvalue, hsame value (Table.mem_values_of_get? hvalue) found
    (Table.mem_values_of_get? hother) hsameFound⟩

/-- If the comparison of values under one key does not fail, there is an answer. -/
theorem exists_compareBy_eq_ok (hentries : entries.Proper)
    (hsame : ∀ key value other, entries.get? key = some value → others.get? key = some other →
      ∃ b, same value other = .ok b) : ∃ b, compareBy same entries others = .ok b := by
  rw [compareBy]
  split_ifs with hsize
  · refine exists_allM_eq_ok fun e he => ?_
    cases hother : others.get? e.1 with
    | none => exact ⟨false, rfl⟩
    | some other => exact hsame e.1 e.2 other (hentries.get?_of_mem he) hother
  · exact ⟨false, rfl⟩

/-- If the first comparison does not say yes, then what it says is said of all. -/
theorem compareBy_of_first {e : Value × Value} {rest : List (Value × Value)} {other : Value}
    {said : Except Failure Bool} (hsize : Table.size ⟨e :: rest⟩ = others.size)
    (hother : others.get? e.1 = some other) (hsaid : same e.2 other = said)
    (hno : said ≠ .ok true) : compareBy same ⟨e :: rest⟩ others = said := by
  rw [compareBy, if_pos hsize, List.allM_cons, hother]
  simp only [hsaid]
  rcases said with failure | answer
  · rfl
  · cases answer with
    | false => rfl
    | true => exact absurd rfl hno

/-- **The order of the others makes no difference.** -/
theorem compareBy_perm (hothers : others.Proper) {permuted : Entries}
    (hperm : others.entries.Perm permuted.entries) :
    compareBy same entries permuted = compareBy same entries others := by
  have hsize : permuted.size = others.size := hperm.length_eq.symm
  simp only [compareBy, hsize, hothers.get?_eq_of_perm hperm]

/-- Entries equal themselves in any order. -/
theorem compareBy_self (hentries : entries.Proper)
    (hsame : ∀ value ∈ entries.values, same value value = .ok true) {permuted : Entries}
    (hperm : entries.entries.Perm permuted.entries) :
    compareBy same entries permuted = .ok true := by
  rw [compareBy_perm hentries hperm, compareBy_eq_true_iff hentries]
  exact ⟨rfl, fun key value hvalue =>
    ⟨value, hvalue, hsame value (Table.mem_values_of_get? hvalue)⟩⟩

end Entries

/-! ### Values -/

namespace Value

theorem parts_of_content {items : List Value}
    (hitems : v.content = .list items ∨ v.content = .tuple items) : v.parts = items := by
  cases v <;> simp_all [content, number?, tupleItems?, isMapping, parts]

/-- The items that are compared one by one are sound. -/
theorem Sound.content {items : List Value} (hv : v.Sound)
    (hitems : v.content = .list items ∨ v.content = .tuple items) :
    ∀ item ∈ items, item.Sound :=
  parts_of_content hitems ▸ hv.parts

theorem isMapping_of_content (hv : v.content = .mapping) : v.isMapping = true := by
  cases v <;> simp_all [content, number?, tupleItems?, isMapping]

theorem content_of_isMapping (hv : v.isMapping = true) : v.content = .mapping := by
  cases v <;> first | rfl | cases hv

theorem Number.eq_comm (m n : Number) : m.eq n = n.eq m := by
  rw [Bool.eq_iff_iff, Number.eq_iff, Number.eq_iff]
  exact exists_congr fun _ => and_comm

end Value

/-- Comparing lists item by item is symmetric if comparing the items is. -/
theorem allM_zip_swap {xs ys : List Value}
    (hsame : ∀ x ∈ xs, ∀ y ∈ ys, same x y = .ok true → same y x = .ok true)
    (hok : ((xs.zip ys).allM fun e => same e.1 e.2) = .ok true) :
    ((ys.zip xs).allM fun e => same e.1 e.2) = .ok true := by
  rw [allM_eq_true_iff] at hok ⊢
  rintro ⟨y, x⟩ hmem
  rw [← List.zip_swap, List.mem_map] at hmem
  obtain ⟨⟨x', y'⟩, hmem, hswap⟩ := hmem
  obtain ⟨rfl, rfl⟩ := Prod.mk.inj hswap
  obtain ⟨hx, hy⟩ := List.of_mem_zip hmem
  exact hsame _ hx _ hy (hok _ hmem)

namespace Heap

/-- Mappings are compared by their entries. -/
theorem compareBy_of_isMapping (hv : v.isMapping = true) (hw : w.isMapping = true) :
    h.compareBy same v w = (h.contents v >>= fun entries =>
      h.contents w >>= fun others => Entries.compareBy same entries others) := by
  rw [compareBy, Value.content_of_isMapping hv, Value.content_of_isMapping hw]

/-- A value that another one equals equals the other one. -/
theorem Sound.compareBy_swap (hsound : h.Sound) (hv : v.Sound) (hw : w.Sound)
    (hsame : ∀ a b : Value, a.Sound → b.Sound → same a b = .ok true → same b a = .ok true)
    (hok : h.compareBy same v w = .ok true) : h.compareBy same w v = .ok true := by
  have hitems {xs ys : List Value} (hxs : ∀ x ∈ xs, x.Sound) (hys : ∀ y ∈ ys, y.Sound) :
      ∀ x ∈ xs, ∀ y ∈ ys, same x y = .ok true → same y x = .ok true :=
    fun x hx y hy => hsame x y (hxs x hx) (hys y hy)
  cases hcv : v.content <;> cases hcw : w.content <;>
    simp only [Heap.compareBy, hcv, hcw] at hok ⊢
  case list.list xs ys =>
    split_ifs at hok with hlength
    · rw [if_pos hlength.symm]
      exact allM_zip_swap (hitems (hv.content (.inl hcv)) (hw.content (.inl hcw))) hok
    · cases hok
  case tuple.tuple xs ys =>
    obtain ⟨b, hb, hok⟩ := bind_eq_ok_iff.mp hok
    obtain ⟨rfl, hlength⟩ := Bool.and_eq_true_iff.mp (Except.ok.inj hok)
    rw [allM_zip_swap (hitems (hv.content (.inr hcv)) (hw.content (.inr hcw))) hb, ok_bind,
      BEq.comm, hlength]
    rfl
  -- Both have proper entries, so counting them makes up for looking from one side only.
  case mapping.mapping =>
    obtain ⟨entries, hentries, hok⟩ := bind_eq_ok_iff.mp hok
    obtain ⟨others, hothers, hok⟩ := bind_eq_ok_iff.mp hok
    have hsv := hsound.contents hv hentries
    have hsw := hsound.contents hw hothers
    rw [hothers, hentries]
    exact Entries.compareBy_swap hsv.proper hsw.proper (hitems hsv.values hsw.values) hok
  case number.number m n => rwa [Value.Number.eq_comm]
  -- Whatever is left is compared by what it is, in either order.
  all_goals rwa [BEq.comm]

/-! ### Comparisons of one level each

A comparison is easiest to follow if whoever makes it takes up a single level.
-/

/-- Two values are equal, as far as `depth` comparisons inside each other show. -/
def equalIn (h : Heap) (depth : Nat) (v w : Value) : Except Failure Bool :=
  h.equalWithin (fun _ => 0) depth 0 v w

/-- Two parts of values are one and the same, or equal as far as `depth` comparisons inside each
other show. -/
def sameIn (h : Heap) (depth : Nat) (v w : Value) : Except Failure Bool :=
  if v.identity = w.identity then .ok true else h.equalIn depth v w

theorem equalIn_succ (depth : Nat) (v w : Value) :
    h.equalIn (depth + 1) v w =
      if v.defersTo w then h.compareBy (h.sameIn depth) w v
      else h.compareBy (h.sameIn depth) v w := rfl

theorem Sound.sameIn_swap (hsound : h.Sound) {depth : Nat} (hv : v.Sound) (hw : w.Sound)
    (hok : h.sameIn depth v w = .ok true) : h.sameIn depth w v = .ok true := by
  induction depth generalizing v w with
  | zero =>
    rw [sameIn] at hok ⊢
    split_ifs at hok with hidentity
    · rw [if_pos hidentity.symm]
    · cases hok
  | succ depth ih =>
    have hswap {a b : Value} (ha : a.Sound) (hb : b.Sound)
        (hok : h.compareBy (h.sameIn depth) a b = .ok true) :
        h.compareBy (h.sameIn depth) b a = .ok true :=
      hsound.compareBy_swap ha hb (fun _ _ ha hb => ih ha hb) hok
    rw [sameIn] at hok ⊢
    split_ifs at hok with hidentity
    · rw [if_pos hidentity.symm]
    · rw [if_neg (Ne.symm hidentity)]
      rw [equalIn_succ] at hok ⊢
      -- Whoever compares finds them equal, and so does the other.
      split_ifs at hok <;> split_ifs
      · exact hswap hw hv hok
      · exact hok
      · exact hok
      · exact hswap hv hw hok

/-- **It makes no difference which one compares**, where nothing fails. -/
theorem Sound.equalIn_agree (hsound : h.Sound) (hv : v.Sound) (hw : w.Sound) (depth : Nat) :
    Agree (h.equalIn (depth + 1) v w) (h.compareBy (h.sameIn depth) v w) ∧
      Agree (h.equalIn (depth + 1) v w) (h.compareBy (h.sameIn depth) w v) := by
  have hswap {a b : Value} (ha : a.Sound) (hb : b.Sound)
      (hok : h.compareBy (h.sameIn depth) a b = .ok true) :
      h.compareBy (h.sameIn depth) b a = .ok true :=
    hsound.compareBy_swap ha hb (fun _ _ ha hb => hsound.sameIn_swap ha hb) hok
  have hagree : Agree (h.compareBy (h.sameIn depth) w v) (h.compareBy (h.sameIn depth) v w) :=
    ⟨hswap hw hv, hswap hv hw⟩
  rw [equalIn_succ]
  split_ifs
  · exact ⟨hagree, .refl _⟩
  · exact ⟨.refl _, hagree.symm⟩

/-- **Equality is symmetric.** -/
theorem Sound.equalIn_comm (hsound : h.Sound) (hv : v.Sound) (hw : w.Sound) (depth : Nat) :
    Agree (h.equalIn depth v w) (h.equalIn depth w v) := by
  cases depth with
  | zero => exact .refl _
  | succ depth =>
    exact (hsound.equalIn_agree hv hw depth).2.trans (hsound.equalIn_agree hw hv depth).1.symm

/-! ### Comparisons that end -/

/-- A value does not contain itself, and what it contains is nested less than `depth` deep. -/
def NestedWithin (h : Heap) : Nat → Value → Prop
  | 0, _ => False
  | depth + 1, v =>
    (∀ items, v.content = .list items ∨ v.content = .tuple items →
      ∀ item ∈ items, h.NestedWithin depth item) ∧
    (v.content = .mapping →
      ∃ entries, h.contents v = .ok entries ∧ ∀ value ∈ entries.values, h.NestedWithin depth value)

/-- Two values can be compared if their parts can. -/
theorem Sound.exists_compareBy_eq_ok (hsound : h.Sound) (hv : v.Sound) (hw : w.Sound) {depth : Nat}
    (hnv : h.NestedWithin (depth + 1) v) (hnw : h.NestedWithin (depth + 1) w)
    (hsame : ∀ a b : Value, a.Sound → b.Sound → h.NestedWithin depth a → h.NestedWithin depth b →
      ∃ answer, same a b = .ok answer) :
    ∃ answer, h.compareBy same v w = .ok answer := by
  obtain ⟨hitemsV, hentriesV⟩ := hnv
  obtain ⟨hitemsW, hentriesW⟩ := hnw
  -- Items are compared in pairs, and each of a pair is nested less deep than its value.
  have hitems {xs ys : List Value} (hxs : v.content = .list xs ∨ v.content = .tuple xs)
      (hys : w.content = .list ys ∨ w.content = .tuple ys) :
      ∃ answer, ((xs.zip ys).allM fun e => same e.1 e.2) = .ok answer :=
    exists_allM_eq_ok fun e he =>
      have hmem := List.of_mem_zip he
      hsame e.1 e.2 (hv.content hxs _ hmem.1) (hw.content hys _ hmem.2)
        (hitemsV xs hxs _ hmem.1) (hitemsW ys hys _ hmem.2)
  cases hcv : v.content <;> cases hcw : w.content <;> simp only [Heap.compareBy, hcv, hcw]
  case list.list xs ys =>
    split_ifs
    · exact hitems (.inl hcv) (.inl hcw)
    · exact ⟨false, rfl⟩
  case tuple.tuple xs ys =>
    obtain ⟨answer, hanswer⟩ := hitems (.inr hcv) (.inr hcw)
    rw [hanswer]
    exact ⟨_, rfl⟩
  case mapping.mapping =>
    obtain ⟨entries, hentries, hnested⟩ := hentriesV hcv
    obtain ⟨others, hothers, hnested'⟩ := hentriesW hcw
    have hse := hsound.contents hv hentries
    have hso := hsound.contents hw hothers
    rw [hentries, hothers]
    refine Entries.exists_compareBy_eq_ok hse.proper fun key value other hvalue hother => ?_
    have hmem := Table.mem_values_of_get? hvalue
    have hmem' := Table.mem_values_of_get? hother
    exact hsame value other (hse.values _ hmem) (hso.values _ hmem') (hnested _ hmem)
      (hnested' _ hmem')
  -- Values of two sorts, and values without parts, are told apart at once.
  all_goals exact ⟨_, rfl⟩

theorem Sound.exists_sameIn_eq_ok (hsound : h.Sound) {depth : Nat} (hv : v.Sound) (hw : w.Sound)
    (hnv : h.NestedWithin depth v) (hnw : h.NestedWithin depth w) :
    ∃ answer, h.sameIn depth v w = .ok answer := by
  induction depth generalizing v w with
  | zero => exact hnv.elim
  | succ depth ih =>
    have hsame (a b : Value) (ha : a.Sound) (hb : b.Sound) (hna : h.NestedWithin depth a)
        (hnb : h.NestedWithin depth b) : ∃ answer, h.sameIn depth a b = .ok answer :=
      ih ha hb hna hnb
    rw [sameIn, equalIn_succ]
    split_ifs
    · exact ⟨true, rfl⟩
    · exact hsound.exists_compareBy_eq_ok hw hv hnw hnv hsame
    · exact hsound.exists_compareBy_eq_ok hv hw hnv hnw hsame

end Heap

end BoundedVars
