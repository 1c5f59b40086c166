import BoundedVars.Text.Blank
import Mathlib.Data.List.DropRight

/-!
# What stands between blanks

There is one way to take a list apart into blanks at its two ends and something in between that
neither begins nor ends with a blank: what stands in between is what `Text.trimWhere` leaves
(`trimWhere_eq_iff`).
-/

namespace BoundedVars.Text

variable {α β : Type} {p q : α → Bool} {xs core : List α}

/-- A list is `core` with elements around it that satisfy `p`. -/
def Surrounds (p : α → Bool) (core xs : List α) : Prop :=
  ∃ before after, xs = before ++ core ++ after ∧ (∀ x ∈ before, p x = true) ∧
    ∀ x ∈ after, p x = true

/-- Neither the first nor the last element satisfies `p`. -/
structure Bare (p : α → Bool) (xs : List α) : Prop where
  first : ∀ x, xs.head? = some x → p x = false
  last : ∀ x, xs.getLast? = some x → p x = false

theorem Bare.mono (hpq : ∀ x, p x = true → q x = true) (h : Bare q xs) : Bare p xs := by
  have hfalse (x : α) (hx : q x = false) : p x = false := by
    rw [Bool.eq_false_iff] at hx ⊢
    exact fun hp => hx (hpq x hp)
  exact ⟨fun x hx => hfalse x (h.first x hx), fun x hx => hfalse x (h.last x hx)⟩

theorem Surrounds.mem_of_mem {x : α} (h : Surrounds p core xs) (hx : x ∈ core) : x ∈ xs := by
  obtain ⟨before, after, rfl, -, -⟩ := h
  exact List.mem_append_left _ (List.mem_append_right _ hx)

/-- What does not satisfy `p` stands in the middle. -/
theorem Surrounds.mem_of_not {x : α} (h : Surrounds p core xs) (hx : x ∈ xs) (hp : p x = false) :
    x ∈ core := by
  obtain ⟨before, after, rfl, hbefore, hafter⟩ := h
  rw [List.mem_append, List.mem_append] at hx
  rcases hx with (hx | hx) | hx
  · rw [hbefore x hx] at hp
    cases hp
  · exact hx
  · rw [hafter x hx] at hp
    cases hp

/-- Where something begins that does not satisfy `p`, no beginning of elements that do goes on. -/
theorem mem_of_mem_before {before rest before' rest' : List α} {x : α}
    (heq : before ++ rest = before' ++ rest') (hbefore : ∀ y ∈ before, p y = true)
    (hbefore' : ∀ y ∈ before', p y = true) (hrest' : ∀ y, rest'.head? = some y → p y = false)
    (hx : x ∈ before) : x ∈ before' := by
  have htake : (before ++ rest).takeWhile p = before ++ rest.takeWhile p :=
    List.takeWhile_append_of_pos hbefore
  have hnone : rest'.takeWhile p = [] := by
    cases rest' with
    | nil => rfl
    | cons y rest' => exact List.takeWhile_cons_of_neg (Bool.eq_false_iff.mp (hrest' y rfl))
  rw [heq, List.takeWhile_append_of_pos hbefore', hnone, List.append_nil] at htake
  rw [htake]
  exact List.mem_append_left _ hx

/-- Something that neither begins nor ends with such elements has all of them around it. -/
theorem Surrounds.mem_of_bare {core' before after : List α} {x : α} (h : Surrounds p core' xs)
    (hbare : Bare q core') (hne : core' ≠ []) (hpq : ∀ y, p y = true → q y = true)
    (hxs : xs = before ++ core ++ after) (hbefore : ∀ y ∈ before, q y = true)
    (hafter : ∀ y ∈ after, q y = true) (hx : x ∈ before ++ after) : p x = true := by
  obtain ⟨before', after', heq, hbefore', hafter'⟩ := h
  rw [hxs, List.append_assoc, List.append_assoc] at heq
  rcases List.mem_append.mp hx with hx | hx
  · refine hbefore' x (mem_of_mem_before heq hbefore (fun y hy => hpq y (hbefore' y hy))
      (fun y hy => hbare.first y ?_) hx)
    rwa [List.head?_append_of_ne_nil _ hne] at hy
  · -- Read backwards, the end is the beginning.
    have hreverse : after.reverse ++ (core.reverse ++ before.reverse) =
        after'.reverse ++ (core'.reverse ++ before'.reverse) := by
      simpa using congrArg List.reverse heq
    have hmem := mem_of_mem_before hreverse (fun y hy => hafter y (List.mem_reverse.mp hy))
      (fun y hy => hpq y (hafter' y (List.mem_reverse.mp hy)))
      (fun y hy => hbare.last y ?_) (List.mem_reverse.mpr hx)
    · exact hafter' x (List.mem_reverse.mp hmem)
    · rwa [List.head?_append_of_ne_nil _ (by simpa using hne), List.head?_reverse] at hy

/-! ### Trimming -/

theorem surrounds_trimWhere (p : α → Bool) (xs : List α) : Surrounds p (trimWhere p xs) xs := by
  refine ⟨xs.takeWhile p, (xs.dropWhile p).rtakeWhile p, ?_, fun x hx => ?_, fun x hx => ?_⟩
  · have hrest : trimWhere p xs ++ (xs.dropWhile p).rtakeWhile p = xs.dropWhile p :=
      List.rdropWhile_append_rtakeWhile
    rw [List.append_assoc, hrest, List.takeWhile_append_dropWhile]
  · exact List.mem_takeWhile_imp hx
  · exact List.mem_rtakeWhile_imp hx

theorem bare_trimWhere (p : α → Bool) (xs : List α) : Bare p (trimWhere p xs) where
  first x hx := by
    -- What is left begins as it did before the end was cut off.
    have hprefix : trimWhere p xs <+: xs.dropWhile p := List.rdropWhile_prefix p _
    obtain ⟨after, hafter⟩ := hprefix
    have hhead : (xs.dropWhile p).head? = some x := by
      rw [← hafter, List.head?_append, hx, Option.some_or]
    have hnot := List.head?_dropWhile_not p xs
    rwa [hhead] at hnot
  last x hx := by
    have hhead : ((xs.dropWhile p).reverse.dropWhile p).head? = some x := by
      rw [← hx, trimWhere, List.getLast?_reverse]
    have hnot := List.head?_dropWhile_not p (xs.dropWhile p).reverse
    rwa [hhead] at hnot

/-- All of the beginning goes, up to an element that stays. -/
theorem dropWhile_append_of_first {before rest : List α} (hbefore : ∀ x ∈ before, p x = true)
    (hrest : ∀ x, rest.head? = some x → p x = false) : (before ++ rest).dropWhile p = rest := by
  rw [List.dropWhile_append_of_pos hbefore]
  cases rest with
  | nil => rfl
  | cons x rest => exact List.dropWhile_cons_of_neg (Bool.eq_false_iff.mp (hrest x rfl))

theorem trimWhere_eq_iff : trimWhere p xs = core ↔ Surrounds p core xs ∧ Bare p core := by
  constructor
  · rintro rfl
    exact ⟨surrounds_trimWhere p xs, bare_trimWhere p xs⟩
  · rintro ⟨⟨before, after, rfl, hbefore, hafter⟩, hbare⟩
    have hafter' : ∀ x ∈ after.reverse, p x = true := fun x hx =>
      hafter x (List.mem_reverse.mp hx)
    have hback : (after.reverse ++ core.reverse).dropWhile p = core.reverse :=
      dropWhile_append_of_first hafter' fun x hx => hbare.last x (by rwa [← List.head?_reverse])
    have hfront : (before ++ (core ++ after)).dropWhile p = core ++ after ∨ core = [] := by
      by_cases hcore : core = []
      · exact .inr hcore
      · refine .inl (dropWhile_append_of_first hbefore fun x hx => hbare.first x ?_)
        rwa [List.head?_append_of_ne_nil _ hcore] at hx
    rw [trimWhere, List.append_assoc]
    rcases hfront with hfront | rfl
    · rw [hfront, List.reverse_append, hback, List.reverse_reverse]
    · -- Nothing but blanks: they go from the front at once.
      have hall : ∀ x ∈ before ++ ([] ++ after), p x = true := fun x hx =>
        (List.mem_append.mp hx).elim (hbefore x) (hafter x)
      rw [List.dropWhile_eq_nil_iff.mpr hall]
      rfl

/-- Where there are no blanks at the ends, trimming changes nothing. -/
theorem trimWhere_of_bare (h : Bare p xs) : trimWhere p xs = xs :=
  trimWhere_eq_iff.mpr ⟨⟨[], [], by simp, by simp, by simp⟩, h⟩

theorem trimWhere_trimWhere (p : α → Bool) (xs : List α) :
    trimWhere p (trimWhere p xs) = trimWhere p xs :=
  trimWhere_of_bare (bare_trimWhere p xs)

theorem trimWhere_map (p : β → Bool) (f : α → β) (xs : List α) :
    trimWhere p (xs.map f) = (trimWhere (p ∘ f) xs).map f := by
  simp only [trimWhere, List.dropWhile_map, ← List.map_reverse]

/-- Only what `p` says of the elements counts. -/
theorem trimWhere_congr (h : ∀ x ∈ xs, p x = q x) : trimWhere p xs = trimWhere q xs := by
  have hdrop {ys : List α} (hys : ∀ x ∈ ys, p x = q x) : ys.dropWhile p = ys.dropWhile q := by
    induction ys with
    | nil => rfl
    | cons y ys ih =>
      rw [List.dropWhile_cons, List.dropWhile_cons, hys y List.mem_cons_self,
        ih fun x hx => hys x (List.mem_cons_of_mem y hx)]
  have hrest : ∀ x ∈ (xs.dropWhile q).reverse, p x = q x := fun x hx =>
    h x ((List.dropWhile_suffix q).subset (List.mem_reverse.mp hx))
  rw [trimWhere, hdrop h, hdrop hrest, trimWhere]

end BoundedVars.Text
