/-!
# Computations that can fail

A sequence of computations succeeds when each of them does, and its result is that of the last one
(`Except.bind_eq_ok_iff`); it fails when the first of them does, or a later one
(`Except.bind_eq_error_iff`).  With these two, functions that check one thing after another are
taken apart without unfolding them.

`Except.FailsOnly` says which failures there can be, however many computations there are.
-/

namespace Except

variable {ε α β : Type} {x : Except ε α} {f : α → Except ε β}

@[simp] theorem throw_eq_error (e : ε) : (throw e : Except ε α) = .error e := rfl

@[simp] theorem pure_eq_ok (a : α) : (pure a : Except ε α) = .ok a := rfl

@[simp] theorem ok_bind (a : α) : ((.ok a : Except ε α) >>= f) = f a := rfl

@[simp] theorem error_bind (e : ε) : ((.error e : Except ε α) >>= f) = .error e := rfl

theorem bind_eq_ok_iff {b : β} : (x >>= f) = .ok b ↔ ∃ a, x = .ok a ∧ f a = .ok b := by
  cases x <;> simp

theorem bind_eq_error_iff {e : ε} :
    (x >>= f) = .error e ↔ x = .error e ∨ ∃ a, x = .ok a ∧ f a = .error e := by
  cases x <;> simp

theorem map_eq_ok_iff {g : α → β} {b : β} : x.map g = .ok b ↔ ∃ a, x = .ok a ∧ g a = b := by
  cases x <;> simp [Except.map]

theorem map_eq_error_iff {g : α → β} {e : ε} : x.map g = .error e ↔ x = .error e := by
  cases x <;> simp [Except.map]

/-- Going through a list ends at the first element that fails. -/
theorem mapM_eq_error_iff {g : α → Except ε β} {xs : List α} {e : ε} :
    xs.mapM g = .error e ↔ ∃ before x after, xs = before ++ x :: after ∧
      (∀ y ∈ before, ∃ b, g y = .ok b) ∧ g x = .error e := by
  induction xs with
  | nil => simp
  | cons x xs ih =>
    rw [List.mapM_cons, bind_eq_error_iff]
    simp only [bind_eq_error_iff, ih, pure_eq_ok, reduceCtorEq, and_false, exists_false, or_false]
    constructor
    · -- The first element fails, or it passes and one of the rest is the first to fail.
      rintro (hx | ⟨b, hx, before, y, after, rfl, hbefore, hy⟩)
      · exact ⟨[], x, xs, rfl, by simp, hx⟩
      · refine ⟨x :: before, y, after, rfl, ?_, hy⟩
        rintro z (_ | ⟨_, hz⟩)
        · exact ⟨b, hx⟩
        · exact hbefore z hz
    · rintro ⟨before, y, after, heq, hbefore, hy⟩
      cases before with
      | nil =>
        obtain ⟨rfl, -⟩ := List.cons.inj heq
        exact Or.inl hy
      | cons z before =>
        obtain ⟨rfl, rfl⟩ := List.cons.inj heq
        obtain ⟨b, hb⟩ := hbefore x List.mem_cons_self
        exact Or.inr ⟨b, hb, before, y, after, rfl,
          fun z hz => hbefore z (List.mem_cons_of_mem _ hz), hy⟩

/-- Where nothing fails, going through a list is mapping it. -/
theorem mapM_eq_ok {f : α → Except ε β} {g : α → β} {xs : List α}
    (hok : ∀ x ∈ xs, f x = .ok (g x)) : xs.mapM f = .ok (xs.map g) := by
  induction xs with
  | nil => rfl
  | cons x xs ih =>
    obtain ⟨hx, hrest⟩ := List.forall_mem_cons.mp hok
    rw [List.mapM_cons, hx, ih hrest]
    rfl

/-- Searches that ask the same of each element come to the same. -/
theorem anyM_map_congr {γ : Type} {p : β → Except ε Bool} {q : γ → Except ε Bool} {a : α → β}
    {b : α → γ} {xs : List α} (hsame : ∀ x ∈ xs, p (a x) = q (b x)) :
    (xs.map a).anyM p = (xs.map b).anyM q := by
  induction xs with
  | nil => rfl
  | cons x xs ih =>
    obtain ⟨hx, hrest⟩ := List.forall_mem_cons.mp hsame
    rw [List.map_cons, List.map_cons, List.anyM_cons, List.anyM_cons, hx, ih hrest]

/-- Each result comes from an element. -/
theorem exists_of_mem_mapM {g : α → Except ε β} {xs : List α} {ys : List β}
    (hok : xs.mapM g = .ok ys) : ∀ y ∈ ys, ∃ x ∈ xs, g x = .ok y := by
  induction xs generalizing ys with
  | nil =>
    obtain rfl := Except.ok.inj hok
    simp
  | cons x xs ih =>
    rw [List.mapM_cons] at hok
    obtain ⟨y, hy, hok⟩ := bind_eq_ok_iff.mp hok
    obtain ⟨rest, hrest, hok⟩ := bind_eq_ok_iff.mp hok
    obtain rfl := Except.ok.inj hok
    refine List.forall_mem_cons.mpr ⟨⟨x, List.mem_cons_self, hy⟩, fun z hz => ?_⟩
    obtain ⟨x', hx', hz'⟩ := ih hrest z hz
    exact ⟨x', List.mem_cons_of_mem _ hx', hz'⟩

/-- What a search finds, it finds at an element. -/
theorem exists_of_findSomeM?_eq_some {g : α → Except ε (Option β)} {xs : List α} {b : β}
    (hok : xs.findSomeM? g = .ok (some b)) : ∃ x ∈ xs, g x = .ok (some b) := by
  induction xs with
  | nil => cases hok
  | cons x xs ih =>
    rw [List.findSomeM?_cons] at hok
    obtain ⟨found, hfound, hok⟩ := bind_eq_ok_iff.mp hok
    cases found with
    | none =>
      obtain ⟨y, hy, hgy⟩ := ih hok
      exact ⟨y, List.mem_cons_of_mem _ hy, hgy⟩
    | some found =>
      obtain rfl := Option.some.inj (Except.ok.inj hok)
      exact ⟨x, List.mem_cons_self, hfound⟩

/-- A search that finds nothing has found nothing at any element. -/
theorem findSomeM?_eq_none_iff {g : α → Except ε (Option β)} {xs : List α} :
    xs.findSomeM? g = .ok none ↔ ∀ x ∈ xs, g x = .ok none := by
  induction xs with
  | nil => simp
  | cons x xs ih =>
    rw [List.findSomeM?_cons, bind_eq_ok_iff, List.forall_mem_cons, ← ih]
    constructor
    · rintro ⟨_ | found, hx, hrest⟩
      · exact ⟨hx, hrest⟩
      · cases hrest
    · rintro ⟨hx, hrest⟩
      exact ⟨none, hx, hrest⟩

/-- A search that succeeds does so at an element. -/
theorem exists_of_anyM_eq_true {g : α → Except ε Bool} {xs : List α}
    (hok : xs.anyM g = .ok true) : ∃ x ∈ xs, g x = .ok true := by
  induction xs with
  | nil => cases hok
  | cons x xs ih =>
    rw [List.anyM_cons] at hok
    obtain ⟨_ | _, hx, hrest⟩ := bind_eq_ok_iff.mp hok
    · obtain ⟨y, hy, hgy⟩ := ih hrest
      exact ⟨y, List.mem_cons_of_mem _ hy, hgy⟩
    · exact ⟨x, List.mem_cons_self, hx⟩

/-- Folds whose steps are the same for each element come to the same. -/
theorem foldlM_congr {g g' : β → α → Except ε β} {xs : List α}
    (hsame : ∀ x ∈ xs, ∀ b, g b x = g' b x) (b : β) : xs.foldlM g b = xs.foldlM g' b := by
  induction xs generalizing b with
  | nil => rfl
  | cons x xs ih =>
    obtain ⟨hx, hrest⟩ := List.forall_mem_cons.mp hsame
    rw [List.foldlM_cons, List.foldlM_cons, hx]
    simp only [ih hrest]

/-- What every step of a fold keeps is kept by the whole fold. -/
theorem foldlM_induction {P : β → Prop} {g : β → α → Except ε β} {xs : List α} {b c : β}
    (hstep : ∀ x ∈ xs, ∀ b c, P b → g b x = .ok c → P c) (hb : P b)
    (hok : xs.foldlM g b = .ok c) : P c := by
  induction xs generalizing b with
  | nil => exact Except.ok.inj hok ▸ hb
  | cons x xs ih =>
    rw [List.foldlM_cons] at hok
    obtain ⟨next, hnext, hok⟩ := bind_eq_ok_iff.mp hok
    exact ih (fun y hy => hstep y (List.mem_cons_of_mem _ hy))
      (hstep x List.mem_cons_self b next hb hnext) hok

/-! ### Which failures there are -/

/-- A computation fails only in a certain way. -/
def FailsOnly (p : ε → Prop) (x : Except ε α) : Prop :=
  ∀ e, x = .error e → p e

variable {p : ε → Prop}

theorem failsOnly_ok (a : α) : FailsOnly p (.ok a : Except ε α) := nofun

theorem failsOnly_error {e : ε} (h : p e) : FailsOnly p (.error e : Except ε α) := by
  rintro _ ⟨⟩
  exact h

theorem FailsOnly.bind (hx : FailsOnly p x) (hf : ∀ a, FailsOnly p (f a)) :
    FailsOnly p (x >>= f) := by
  intro e he
  rcases bind_eq_error_iff.mp he with he | ⟨a, -, he⟩
  · exact hx e he
  · exact hf a e he

theorem failsOnly_mapM {g : α → Except ε β} (hg : ∀ a, FailsOnly p (g a)) (xs : List α) :
    FailsOnly p (xs.mapM g) := by
  intro e he
  obtain ⟨-, x, -, -, -, hx⟩ := mapM_eq_error_iff.mp he
  exact hg x e hx

theorem failsOnly_foldlM {g : β → α → Except ε β} (hg : ∀ b a, FailsOnly p (g b a)) (xs : List α)
    (b : β) : FailsOnly p (xs.foldlM g b) := by
  induction xs generalizing b with
  | nil => exact failsOnly_ok b
  | cons x xs ih =>
    rw [List.foldlM_cons]
    exact (hg b x).bind ih

theorem failsOnly_forIn {g : α → β → Except ε (ForInStep β)} (hg : ∀ a b, FailsOnly p (g a b))
    (xs : List α) (b : β) : FailsOnly p (forIn xs b g) := by
  induction xs generalizing b with
  | nil => exact failsOnly_ok b
  | cons x xs ih =>
    rw [List.forIn_cons]
    refine (hg x b).bind fun step => ?_
    cases step with
    | done b => exact failsOnly_ok b
    | yield b => exact ih b

theorem failsOnly_findSomeM? {g : α → Except ε (Option β)} (hg : ∀ a, FailsOnly p (g a))
    (xs : List α) : FailsOnly p (xs.findSomeM? g) := by
  induction xs with
  | nil => exact failsOnly_ok none
  | cons x xs ih =>
    rw [List.findSomeM?_cons]
    refine (hg x).bind fun found => ?_
    cases found with
    | none => exact ih
    | some b => exact failsOnly_ok _

theorem failsOnly_allM {g : α → Except ε Bool} (hg : ∀ a, FailsOnly p (g a)) (xs : List α) :
    FailsOnly p (xs.allM g) := by
  induction xs with
  | nil => exact failsOnly_ok true
  | cons x xs ih =>
    rw [List.allM_cons]
    refine (hg x).bind fun holds => ?_
    cases holds with
    | false => exact failsOnly_ok false
    | true => exact ih

theorem failsOnly_anyM {g : α → Except ε Bool} (hg : ∀ a, FailsOnly p (g a)) (xs : List α) :
    FailsOnly p (xs.anyM g) := by
  induction xs with
  | nil => exact failsOnly_ok false
  | cons x xs ih =>
    rw [List.anyM_cons]
    refine (hg x).bind fun found => ?_
    cases found with
    | false => exact ih
    | true => exact failsOnly_ok true

end Except
