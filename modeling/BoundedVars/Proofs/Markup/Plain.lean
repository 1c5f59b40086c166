import BoundedVars.Proofs.Markup.Joined

/-!
# Plain texts

A text is plain if each of its tags has an odd number of backslashes right before it
(`IsPlain`).  That is so if going through it one character after the other finds no other tags
(`isPlain_iff_active`), and then it can be rendered.

An escaped text is plain, with texts of one's own around it, and so are two escaped texts joined if
nothing in the second closes a bracket (`isPlain_joined`).
-/

namespace BoundedVars.Markup

variable {c : Char} {cs : List Char} {n : Nat} {text : String}

/-- Each tag in the text is made plain by an odd number of backslashes right before it. -/
def IsPlain (text : String) : Prop :=
  ∀ before rest, text.toList = before ++ '[' :: rest → opensTag rest = true →
    trailingSlashes before % 2 = 1

/-! ### How tags are looked for -/

/-- A bracket that opens is the first character or comes later. -/
theorem forall_open_cons {p : List Char → List Char → Prop} :
    (∀ before rest, c :: cs = before ++ '[' :: rest → p before rest) ↔
      (c = '[' → p [] cs) ∧ ∀ before rest, cs = before ++ '[' :: rest → p (c :: before) rest := by
  constructor
  · intro h
    exact ⟨fun hc => h [] cs (by rw [hc]; rfl),
      fun before rest hcs => h (c :: before) rest (by rw [hcs]; rfl)⟩
  · rintro ⟨hfirst, hlater⟩ before rest heq
    cases before with
    | nil =>
      obtain ⟨hc, rfl⟩ := List.cons.inj heq
      exact hfirst hc
    | cons d before =>
      obtain ⟨rfl, hcs⟩ := List.cons.inj heq
      exact hlater before rest hcs

theorem active_eq_nil_iff :
    active n cs = [] ↔ ∀ before rest, cs = before ++ '[' :: rest → opensTag rest = true →
      trailingSlashes (List.replicate n '\x5c' ++ before) % 2 = 1 := by
  induction cs generalizing n with
  | nil => exact iff_of_true rfl fun before rest heq => by simp at heq
  | cons c cs ih =>
    rw [forall_open_cons]
    by_cases hslash : c = '\x5c'
    · subst hslash
      simp only [active_slash, ih, trailingSlashes_replicate_cons_slash, Char.reduceEq,
        false_implies, true_and]
    · -- Behind another character the count starts anew.
      have hanew := ih (n := 0)
      simp only [List.replicate_zero, List.nil_append] at hanew
      simp only [trailingSlashes_append_cons hslash, List.append_nil, trailingSlashes_replicate]
      rw [← hanew]
      by_cases hopen : c = '['
      · subst hopen
        rw [active_open]
        rcases Nat.mod_two_eq_zero_or_one n with hn | hn <;> cases opensTag cs <;> simp [hn]
      · rw [active_cons hslash hopen]
        simp [hopen]

theorem isPlain_iff_active : IsPlain text ↔ active 0 text.toList = [] := by
  rw [active_eq_nil_iff]
  rfl

/-- Plain texts can be rendered. -/
theorem IsPlain.render_eq_ok (h : IsPlain text) : render text = .ok () :=
  render_eq_ok_of_active_eq_nil (isPlain_iff_active.mp h)

/-! ### Texts that are plain -/

theorem isPlain_of_isBracketless (h : isBracketless text.toList = true) : IsPlain text :=
  isPlain_iff_active.mpr (active_of_isBracketless h)

/-- An escaped text is plain, with texts of one's own around it. -/
theorem isPlain_escaped {first last : String} (hfirst : isNeutral first.toList = true)
    (hlast : isNeutral last.toList = true) (text : String) :
    IsPlain (first ++ escape text ++ last) := by
  rw [isPlain_iff_active, String.toList_append, String.toList_append, escape, String.toList_ofList,
    List.append_assoc, active_append_of_isNeutral hfirst]
  exact active_escapeChars_append_of_isNeutral hlast _

/-- An escaped text is plain at the end of a message, too. -/
theorem isPlain_escaped_last {first : String} (hfirst : isNeutral first.toList = true)
    (text : String) : IsPlain (first ++ escape text) := by
  rw [isPlain_iff_active, String.toList_append, escape, String.toList_ofList,
    active_append_of_isNeutral hfirst]
  exact active_escapeChars _

/-- **Escaped texts joined are plain** if no bracket closes in the second. -/
theorem isPlain_joined {first middle last : String} (hfirst : isNeutral first.toList = true)
    (hmiddle : isNeutral middle.toList = true) (hlast : isNeutral last.toList = true)
    (left : String) {right : String} (hright : ']' ∉ right.toList) :
    IsPlain (first ++ escape left ++ middle ++ escape right ++ last) := by
  -- A tag can begin in the first text and end in the second only where a bracket closes there.
  have hclosed : firstClosed right.toList = none := by
    rw [Option.eq_none_iff_forall_ne_some]
    intro closed hclosed
    obtain ⟨-, after, hafter⟩ := firstClosed_eq_some_iff.mp hclosed
    rw [hafter] at hright
    exact hright (by simp)
  have hjoint : joint left.toList middle.toList right.toList = none := by
    rw [joint, hclosed]
    cases openEnd 0 left.toList <;> rfl
  simp only [isPlain_iff_active, String.toList_append, escape, String.toList_ofList,
    List.append_assoc]
  rw [active_append_of_isNeutral hfirst, active_joined hmiddle hlast, hjoint]
  rfl

end BoundedVars.Markup
