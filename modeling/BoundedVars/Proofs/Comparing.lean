import BoundedVars.Proofs.Equality

/-!
# Comparisons and the depth to which they go

How deep values are followed, and how many levels each one takes up that compares, decides whether a
comparison comes to an end, and nothing else.  What it comes to is always the same
(`Heap.ComesTo`): wherever the comparison is not cut short it comes to that, and with enough depth
it is not cut short, unless it has no end at all.  Every comparison comes to something
(`Heap.exists_comesTo`).

The comparison of one level each is the one that goes furthest at any depth (`cutShort_equalIn`),
and every other one gets as far at a greater depth (`cutShort_equalWithin`).  So facts about that
one are facts about all (`Heap.comesTo_iff`).
-/

namespace BoundedVars

open Except

variable {α β : Type}

/-! ### What is cut short -/

/-- An outcome is another one, if it is not that of a comparison that goes too deep. -/
def CutShort (first second : Except Failure α) : Prop :=
  first = .error .endlessComparison ∨ first = second

namespace CutShort

theorem refl (first : Except Failure α) : CutShort first first := Or.inr rfl

theorem trans {first second third : Except Failure α} (hfirst : CutShort first second)
    (hsecond : CutShort second third) : CutShort first third := by
  rcases hfirst with hfirst | rfl
  · exact Or.inl hfirst
  · exact hsecond

/-- What is not cut short is the whole. -/
theorem eq {first second : Except Failure α} (h : CutShort first second)
    (hends : first ≠ .error .endlessComparison) : first = second :=
  h.resolve_left hends

theorem bind {x y : Except Failure α} {f g : α → Except Failure β} (hx : CutShort x y)
    (hf : ∀ a, CutShort (f a) (g a)) : CutShort (x >>= f) (y >>= g) := by
  rcases hx with rfl | rfl
  · exact Or.inl rfl
  · cases x with
    | error failure => exact .refl _
    | ok a => exact hf a

variable {p q : α → Except Failure Bool} {xs : List α}

theorem allM (hp : ∀ x, CutShort (p x) (q x)) (xs : List α) :
    CutShort (xs.allM p) (xs.allM q) := by
  induction xs with
  | nil => exact .refl _
  | cons x rest ih =>
    rw [List.allM_cons, List.allM_cons]
    refine (hp x).bind fun answer => ?_
    cases answer with
    | false => exact .refl _
    | true => exact ih

theorem anyM (hp : ∀ x, CutShort (p x) (q x)) (xs : List α) :
    CutShort (xs.anyM p) (xs.anyM q) := by
  induction xs with
  | nil => exact .refl _
  | cons x rest ih =>
    rw [List.anyM_cons, List.anyM_cons]
    refine (hp x).bind fun answer => ?_
    cases answer with
    | false => exact ih
    | true => exact .refl _

end CutShort

/-! ### What does not depend on the depth -/

/-- Something that compares comes to an outcome: at any depth, and whatever levels comparisons take
up, it is this outcome or cut short, and with enough depth it is this outcome. -/
structure Settles (run : (Value → Nat) → Nat → Except Failure Bool)
    (said : Except Failure Bool) : Prop where
  cut : ∀ levels depth, CutShort (run levels depth) said
  settled : ∀ {levels bound}, (∀ v, levels v ≤ bound) →
    ∃ enough, ∀ depth, enough ≤ depth → run levels depth = said

/-- What compares does not come to two different outcomes. -/
theorem Settles.unique {run : (Value → Nat) → Nat → Except Failure Bool}
    {first second : Except Failure Bool} (hfirst : Settles run first)
    (hsecond : Settles run second) : first = second := by
  have hnone (v : Value) : (fun _ : Value => 0) v ≤ 0 := Nat.le_refl 0
  obtain ⟨n, hn⟩ := hfirst.settled hnone
  obtain ⟨m, hm⟩ := hsecond.settled hnone
  exact (hn (n + m) (Nat.le_add_right n m)).symm.trans (hm (n + m) (Nat.le_add_left m n))

/-- What holds with enough depth of each of some things holds of all of them with enough depth. -/
theorem exists_enough {p : α → Nat → Prop} {xs : List α}
    (h : ∀ x ∈ xs, ∃ enough, ∀ depth, enough ≤ depth → p x depth) :
    ∃ enough, ∀ depth, enough ≤ depth → ∀ x ∈ xs, p x depth := by
  induction xs with
  | nil => exact ⟨0, fun _ _ => List.forall_mem_nil _⟩
  | cons x rest ih =>
    obtain ⟨hx, hrest⟩ := List.forall_mem_cons.mp h
    obtain ⟨n, hn⟩ := hx
    obtain ⟨m, hm⟩ := ih hrest
    exact ⟨max n m, fun depth hle => List.forall_mem_cons.mpr
      ⟨hn depth (le_trans (le_max_left n m) hle), hm depth (le_trans (le_max_right n m) hle)⟩⟩

/-- Looking through a list for something ends as the comparisons do to which that leads. -/
theorem Settles.anyM {run : α → (Value → Nat) → Nat → Except Failure Bool}
    {said : α → Except Failure Bool} (hrun : ∀ x, Settles (run x) (said x)) (xs : List α) :
    Settles (fun levels depth => xs.anyM fun x => run x levels depth) (xs.anyM said) where
  cut levels depth := CutShort.anyM (fun x => (hrun x).cut levels depth) xs
  settled {levels bound} hlevels := by
    have heach : ∀ x ∈ xs, ∃ enough, ∀ depth, enough ≤ depth → run x levels depth = said x :=
      fun x _ => (hrun x).settled hlevels
    obtain ⟨enough, henough⟩ := exists_enough heach
    refine ⟨enough, fun depth hdepth => ?_⟩
    have hall := anyM_map_congr (p := fun x => run x levels depth) (q := said) (a := id) (b := id)
      (henough depth hdepth)
    rwa [List.map_id] at hall

/-! ### Comparisons at every depth -/

namespace Heap

variable {h : Heap} {v w : Value} {same same' : Value → Value → Except Failure Bool}
  {levels : Value → Nat} {bound : Nat} {said : Except Failure Bool}

/-- Two values are equal, as far as a comparison shows that goes to some depth and takes up some
levels, besides one, of each that compares. -/
def equalAt (h : Heap) (levels : Value → Nat) (depth : Nat) (v w : Value) : Except Failure Bool :=
  h.equalWithin levels depth (levels (v.comparer w)) v w

/-- Two values are one and the same, or equal as far as such a comparison shows. -/
def sameAt (h : Heap) (levels : Value → Nat) (depth : Nat) (v w : Value) : Except Failure Bool :=
  if v.identity = w.identity then .ok true else h.equalAt levels depth v w

/-- The comparison of the program is one of these. -/
theorem equal_eq_equalAt (v w : Value) :
    h.equal v w = h.equalAt Value.comparingLevels nestingLimit v w := rfl

theorem equalWithin_succ (levels : Value → Nat) (depth : Nat) (v w : Value) :
    h.equalWithin levels (depth + 1) 0 v w =
      if v.defersTo w then h.compareBy (h.sameAt levels depth) w v
      else h.compareBy (h.sameAt levels depth) v w := rfl

/-- Levels that are taken up are gone. -/
theorem equalWithin_add (levels : Value → Nat) (depth steps : Nat) (v w : Value) :
    h.equalWithin levels (depth + steps) steps v w = h.equalWithin levels depth 0 v w := by
  induction steps with
  | zero => rfl
  | succ steps ih => exact ih

/-- A comparison for which there is room compares the parts. -/
theorem exists_equalAt_eq {depth : Nat} (hroom : levels (v.comparer w) < depth) :
    ∃ rest, h.equalAt levels depth v w =
      if v.defersTo w then h.compareBy (h.sameAt levels rest) w v
      else h.compareBy (h.sameAt levels rest) v w := by
  obtain ⟨rest, rfl⟩ : ∃ rest, depth = rest + 1 + levels (v.comparer w) :=
    ⟨depth - 1 - levels (v.comparer w), by omega⟩
  exact ⟨rest, by rw [equalAt, equalWithin_add, equalWithin_succ]⟩

/-- Parts cut short cut the whole short. -/
theorem cutShort_compareBy (hsame : ∀ a b, CutShort (same a b) (same' a b)) (v w : Value) :
    CutShort (h.compareBy same v w) (h.compareBy same' v w) := by
  have hitems (xs ys : List Value) : CutShort ((xs.zip ys).allM fun e => same e.1 e.2)
      ((xs.zip ys).allM fun e => same' e.1 e.2) :=
    CutShort.allM (fun e : Value × Value => hsame e.1 e.2) _
  -- Only the values under common keys are compared; the look-up is the same at every depth.
  have hentries (entries others : Entries) : CutShort (Entries.compareBy same entries others)
      (Entries.compareBy same' entries others) := by
    unfold Entries.compareBy
    split_ifs
    · refine CutShort.allM (fun e => ?_) _
      cases others.get? e.1 with
      | none => exact .refl _
      | some other => exact hsame e.2 other
    · exact .refl _
  cases hcv : v.content <;> cases hcw : w.content <;> simp only [Heap.compareBy, hcv, hcw]
  case list.list xs ys =>
    split_ifs
    · exact hitems xs ys
    · exact .refl _
  case tuple.tuple xs ys => exact (hitems xs ys).bind fun _ => .refl _
  case mapping.mapping =>
    exact (CutShort.refl _).bind fun entries => (CutShort.refl _).bind fun others =>
      hentries entries others
  all_goals exact .refl _

/-- Whoever of two values compares, the comparison is cut short if those of the parts are. -/
theorem cutShort_ite (hsame : ∀ a b, CutShort (same a b) (same' a b)) (v w : Value) :
    CutShort (if v.defersTo w then h.compareBy same w v else h.compareBy same v w)
      (if v.defersTo w then h.compareBy same' w v else h.compareBy same' v w) := by
  split_ifs
  · exact cutShort_compareBy hsame w v
  · exact cutShort_compareBy hsame v w

theorem cutShort_sameIn {depth depth' : Nat}
    (hequal : ∀ a b, CutShort (h.equalIn depth a b) (h.equalIn depth' a b)) (v w : Value) :
    CutShort (h.sameIn depth v w) (h.sameIn depth' v w) := by
  rw [sameIn, sameIn]
  split_ifs
  · exact .refl _
  · exact hequal v w

/-- A comparison goes further at a greater depth. -/
theorem cutShort_equalIn_of_le {depth depth' : Nat} (hle : depth ≤ depth') (v w : Value) :
    CutShort (h.equalIn depth v w) (h.equalIn depth' v w) := by
  induction depth generalizing depth' v w with
  | zero => exact Or.inl rfl
  | succ depth ih =>
    obtain _ | depth' := depth'
    case zero => exact absurd hle (Nat.not_succ_le_zero depth)
    have hle := Nat.le_of_succ_le_succ hle
    rw [equalIn_succ, equalIn_succ]
    exact cutShort_ite (cutShort_sameIn fun a b => ih hle a b) v w

/-- **No comparison goes further than that of one level each.** -/
theorem cutShort_equalIn (levels : Value → Nat) (depth steps : Nat) (v w : Value) :
    CutShort (h.equalWithin levels depth steps v w) (h.equalIn depth v w) := by
  induction depth generalizing steps v w with
  | zero => exact Or.inl rfl
  | succ depth ih =>
    cases steps with
    -- A level that is taken up at once is one that a comparison of one level still has.
    | succ steps => exact (ih steps v w).trans (cutShort_equalIn_of_le (Nat.le_succ depth) v w)
    | zero =>
      rw [equalWithin_succ, equalIn_succ]
      refine cutShort_ite (fun a b => ?_) v w
      rw [sameAt, sameIn]
      split_ifs
      · exact .refl _
      · exact ih _ a b

/-- **Every comparison goes as far as that of one level each**, at a depth that is greater by as
much as it takes up more levels. -/
theorem cutShort_equalWithin (hlevels : ∀ v, levels v ≤ bound) {steps depth reach : Nat}
    (hsteps : steps ≤ bound) (hreach : depth * (bound + 1) ≤ reach) (v w : Value) :
    CutShort (h.equalIn depth v w) (h.equalWithin levels reach steps v w) := by
  induction depth generalizing steps reach v w with
  | zero => exact Or.inl rfl
  | succ depth ih =>
    rw [Nat.succ_mul] at hreach
    -- Of the `bound + 1` levels that one more comparison has, `steps` are taken up at once.
    obtain ⟨rest, rfl⟩ : ∃ rest, reach = rest + 1 + steps := ⟨reach - 1 - steps, by omega⟩
    rw [equalWithin_add, equalWithin_succ, equalIn_succ]
    refine cutShort_ite (fun a b => ?_) v w
    rw [sameAt, sameIn]
    split_ifs
    · exact .refl _
    · exact ih (hlevels _) (by omega) a b

/-! ### What comparisons come to -/

/-- What the comparison of two values comes to. -/
def ComesTo (h : Heap) (v w : Value) (said : Except Failure Bool) : Prop :=
  Settles (fun levels depth => h.equalAt levels depth v w) said

/-- A comparison comes to what it comes to at great depths if it takes up one level each. -/
theorem comesTo_iff : h.ComesTo v w said ↔
    ∃ enough, ∀ depth, enough ≤ depth → h.equalIn depth v w = said := by
  constructor
  · intro hsaid
    have hnone (v : Value) : (fun _ : Value => 0) v ≤ 0 := Nat.le_refl 0
    exact hsaid.settled hnone
  · rintro ⟨enough, henough⟩
    have hcut (depth : Nat) : CutShort (h.equalIn depth v w) said := by
      have hle := cutShort_equalIn_of_le (h := h) (Nat.le_add_left depth enough) v w
      rwa [henough (enough + depth) (Nat.le_add_right enough depth)] at hle
    refine ⟨fun levels depth => (cutShort_equalIn levels depth _ v w).trans (hcut depth),
      fun {levels bound} hlevels => ?_⟩
    by_cases hends : said = .error .endlessComparison
    · -- Without an end it is cut short everywhere.
      refine ⟨0, fun depth _ => ?_⟩
      have hshort := (cutShort_equalIn levels depth (levels (v.comparer w)) v w).trans (hcut depth)
      rw [hends] at hshort ⊢
      exact hshort.elim id id
    · -- Each of the comparisons that are enough takes up at most so many levels.
      refine ⟨enough * (bound + 1), fun depth hdepth => ?_⟩
      have hfar := cutShort_equalWithin (h := h) hlevels (hlevels (v.comparer w)) hdepth v w
      rw [henough enough (Nat.le_refl enough)] at hfar
      exact (hfar.eq hends).symm

/-- **Every comparison comes to something.** -/
theorem exists_comesTo (h : Heap) (v w : Value) : ∃ said, h.ComesTo v w said := by
  by_cases hends : ∃ depth, h.equalIn depth v w ≠ .error .endlessComparison
  · obtain ⟨enough, henough⟩ := hends
    refine ⟨h.equalIn enough v w, comesTo_iff.mpr ⟨enough, fun depth hdepth => ?_⟩⟩
    exact ((cutShort_equalIn_of_le hdepth v w).eq henough).symm
  · -- A comparison that is cut short at every depth comes to just that.
    simp only [not_exists, not_not] at hends
    exact ⟨_, comesTo_iff.mpr ⟨0, fun depth _ => hends depth⟩⟩

/-- Comparisons that say the same at every depth come to the same. -/
theorem comesTo_congr {v' w' : Value} (heq : ∀ depth, h.equalIn depth v w = h.equalIn depth v' w') :
    h.ComesTo v w said ↔ h.ComesTo v' w' said := by
  simp only [comesTo_iff, heq]

/-- Comparisons that agree at every depth come to a yes together. -/
theorem comesTo_true_iff {v' w' : Value}
    (hagree : ∀ depth, Agree (h.equalIn depth v w) (h.equalIn depth v' w')) :
    h.ComesTo v w (.ok true) ↔ h.ComesTo v' w' (.ok true) := by
  rw [comesTo_iff, comesTo_iff]
  exact exists_congr fun enough => forall₂_congr fun depth _ => hagree depth

/-- Comparisons that come to a yes together have the same answers, if they have answers. -/
theorem ComesTo.answers_eq {v' w' : Value}
    (hiff : h.ComesTo v w (.ok true) ↔ h.ComesTo v' w' (.ok true)) {a b : Bool}
    (ha : h.ComesTo v w (.ok a)) (hb : h.ComesTo v' w' (.ok b)) : a = b := by
  cases a with
  | true => exact Except.ok.inj ((hiff.mp ha).unique hb)
  | false =>
    cases b with
    | true => exact Except.ok.inj (ha.unique (hiff.mpr hb))
    | false => rfl

theorem comesTo_of_equalIn {depth : Nat} (hsaid : h.equalIn depth v w = said)
    (hends : said ≠ .error .endlessComparison) : h.ComesTo v w said := by
  refine comesTo_iff.mpr ⟨depth, fun depth' hle => ?_⟩
  have hfar := cutShort_equalIn_of_le (h := h) hle v w
  rw [hsaid] at hfar
  exact (hfar.eq hends).symm

/-- What a comparison says that is not cut short is what it comes to. -/
theorem comesTo_of_equalAt {depth : Nat} (hsaid : h.equalAt levels depth v w = said)
    (hends : said ≠ .error .endlessComparison) : h.ComesTo v w said := by
  obtain ⟨other, hother⟩ := exists_comesTo h v w
  have heq := (hother.cut levels depth).eq (hsaid.symm ▸ hends)
  rwa [← hsaid, heq]

/-- Parts of values come to something, too. -/
theorem exists_settles_sameAt (h : Heap) (v w : Value) :
    ∃ said, Settles (fun levels depth => h.sameAt levels depth v w) said := by
  by_cases hidentity : v.identity = w.identity
  · have hsame (levels : Value → Nat) (depth : Nat) : h.sameAt levels depth v w = .ok true :=
      if_pos hidentity
    exact ⟨.ok true, fun levels depth => Or.inr (hsame levels depth),
      fun {levels _} _ => ⟨0, fun depth _ => hsame levels depth⟩⟩
  · have hsame : (fun levels depth => h.sameAt levels depth v w) =
        fun levels depth => h.equalAt levels depth v w :=
      funext fun levels => funext fun depth => if_neg hidentity
    rw [hsame]
    exact exists_comesTo h v w

end Heap

end BoundedVars
