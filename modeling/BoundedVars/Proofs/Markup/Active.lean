import BoundedVars.Markup.Render
import Mathlib.Tactic.SplitIfs

/-!
# Tags that act

A tag behind an even number of backslashes *acts* when its text is rendered, any other is plain
text.  `active` lists the contents of the tags that act by looking at one character after the other;
`tags_scan` says that these are the tags which a scan finds, although a scan passes over what is
inside of a tag.  The point is that `active` can be followed through texts joined to one another.

A text in which no tag acts can always be rendered (`render_eq_ok_of_active_eq_nil`).  If exactly
one does, there is nothing that it could close, so everything depends on its content
(`render_eq_ok_iff_of_active_eq_singleton`).
-/

namespace BoundedVars.Markup

variable {c : Char} {cs : List Char} {n : Nat}

/-- What stands before the next closing bracket. -/
def upToClose (cs : List Char) : List Char :=
  cs.takeWhile (· != ']')

/-- The contents of the tags that act in a text, `slashes` backslashes having come right before
it. -/
def active (slashes : Nat) : List Char → List (List Char)
  | [] => []
  | c :: rest =>
    if c == '\x5c' then active (slashes + 1) rest
    else if c == '[' && opensTag rest && slashes % 2 == 0 then upToClose rest :: active 0 rest
    else active 0 rest

/-- The contents of the tags that act among pieces. -/
def tags : List Piece → List (List Char)
  | [] => []
  | .plain _ :: rest => tags rest
  | .tag slashes content :: rest => if slashes % 2 = 1 then tags rest else content :: tags rest

/-! ### Looking for the closing bracket -/

@[simp] theorem upToClose_close (rest : List Char) : upToClose (']' :: rest) = [] := rfl

theorem upToClose_cons (h : c ≠ ']') (rest : List Char) :
    upToClose (c :: rest) = c :: upToClose rest := by
  simp [upToClose, h]

/-- Before a bracket that closes there is something else first, and it still closes there. -/
theorem closesNext_cons (hclose : c ≠ ']') :
    closesNext (c :: cs) = (c != '[' && closesNext cs) := by
  by_cases hopen : c = '['
  · subst hopen
    rfl
  · simp [closesNext, hclose, hopen]

theorem ne_brackets_of_startsTag (h : startsTag c = true) : c ≠ '[' ∧ c ≠ ']' ∧ c ≠ '\x5c' := by
  refine ⟨?_, ?_, ?_⟩ <;>
  · rintro rfl
    revert h
    decide

theorem closesNext_of_opensTag (h : opensTag cs = true) : closesNext cs = true := by
  cases cs with
  | nil => cases h
  | cons c rest =>
    rw [opensTag, Bool.and_eq_true] at h
    obtain ⟨hopen, hclose, -⟩ := ne_brackets_of_startsTag h.1
    rw [closesNext_cons hclose, h.2]
    simp [hopen]

/-! ### One character after the other -/

@[simp] theorem active_slash (rest : List Char) :
    active n ('\x5c' :: rest) = active (n + 1) rest := by
  simp [active]

theorem active_cons (hslash : c ≠ '\x5c') (hopen : c ≠ '[') (rest : List Char) :
    active n (c :: rest) = active 0 rest := by
  simp [active, hslash, hopen]

theorem active_open (rest : List Char) :
    active n ('[' :: rest) =
      if opensTag rest && n % 2 == 0 then upToClose rest :: active 0 rest else active 0 rest :=
  rfl

/-- Where a bracket closes before the next one opens, the backslashes right before do not matter. -/
theorem active_of_closesNext (h : closesNext cs = true) : active n cs = active 0 cs := by
  induction cs generalizing n with
  | nil => rfl
  | cons c rest ih =>
    by_cases hslash : c = '\x5c'
    · subst hslash
      rw [closesNext_cons (by decide)] at h
      -- The backslash only raises the count, and the count does not matter further on.
      rw [active_slash, active_slash, ih h, ← ih h]
    · have hopen : c ≠ '[' := by
        rintro rfl
        cases h
      rw [active_cons hslash hopen, active_cons hslash hopen]

/-! ### The tags of a scan -/

theorem tags_append (first second : List Piece) :
    tags (first ++ second) = tags first ++ tags second := by
  induction first with
  | nil => rfl
  | cons piece rest ih =>
    cases piece with
    | plain c => exact ih
    | tag slashes content =>
      rw [List.cons_append, tags, tags, ih]
      split_ifs <;> rfl

@[simp] theorem tags_plainSlashes (n : Nat) : tags (plainSlashes n) = [] := by
  induction n with
  | zero => rfl
  | succ n ih => exact ih

/-- What a scan will find: from inside a tag that tag, if it acts, and the tags behind it. -/
def Scan.active : Scan → List Char → List (List Char)
  | outside slashes, cs => Markup.active slashes cs
  | inside slashes content, cs =>
    (if slashes % 2 = 1 then [] else [content.reverse ++ upToClose cs]) ++ Markup.active 0 cs

/-- A scan is inside a tag only where the tag is closed. -/
def Scan.Closes : Scan → List Char → Prop
  | outside _, _ => True
  | inside _ _, cs => closesNext cs = true

/-- **A scan finds the tags that act.** -/
theorem tags_scanFrom (s : Scan) (cs : List Char) (h : s.Closes cs) :
    tags (scanFrom s cs) = s.active cs := by
  fun_induction scanFrom s cs with
  | case1 slashes => exact tags_plainSlashes slashes
  | case2 slashes content => cases h
  | case3 slashes c rest hc ih =>
    rw [beq_iff_eq] at hc
    subst hc
    rw [ih trivial]
    exact (active_slash rest).symm
  -- A tag opens; the scan is inside of it from here on, and it does close.
  | case4 slashes c rest hc hopen ih =>
    rw [Bool.and_eq_true, beq_iff_eq] at hopen
    obtain ⟨rfl, hopens⟩ := hopen
    rw [ih (closesNext_of_opensTag hopens), Scan.active, Scan.active, active_open, hopens]
    rcases Nat.mod_two_eq_zero_or_one slashes with hn | hn <;> simp [hn]
  | case5 slashes c rest hc hopen ih =>
    rw [tags_append, tags_plainSlashes, List.nil_append, tags, ih trivial]
    simp only [Bool.and_eq_true, not_and, Bool.not_eq_true] at hopen
    rw [beq_iff_eq] at hc hopen
    by_cases h : c = '['
    · subst h
      simp [Scan.active, active_open, hopen rfl]
    · exact (active_cons hc h rest).symm
  -- The tag closes here.
  | case6 slashes content c rest hc ih =>
    rw [beq_iff_eq] at hc
    subst hc
    rw [tags, ih trivial, Scan.active, Scan.active, upToClose_close, List.append_nil,
      active_cons (by decide) (by decide)]
    split_ifs <;> rfl
  | case7 slashes content c rest hc ih =>
    rw [beq_iff_eq] at hc
    rw [Scan.Closes, closesNext_cons hc, Bool.and_eq_true] at h
    -- No bracket opens inside of a tag, so what acts behind it is the same from here.
    have hrest : active 0 (c :: rest) = active 0 rest := by
      by_cases hslash : c = '\x5c'
      · rw [hslash, active_slash, active_of_closesNext h.2]
      · exact active_cons hslash (by simpa using h.1) rest
    rw [ih h.2, Scan.active, Scan.active, upToClose_cons hc, hrest]
    simp

theorem tags_scan (cs : List Char) : tags (scan cs) = active 0 cs :=
  tags_scanFrom (.outside 0) cs trivial

/-! ### Rendering -/

/-- A tag that is a fault where no tag is open: one that closes, or one whose name has a colour
channel that is no numeral. -/
def IsFaulty (content : List Char) : Prop :=
  content.head? = some '/' ∨ ∃ fault, tagName (splitContent content).1 = .error fault

theorem renderFrom_of_tags_eq_nil {pieces : List Piece} (openTags : List OpenTag) (position : Nat)
    (h : tags pieces = []) : renderFrom openTags position pieces = .ok () := by
  induction pieces generalizing position with
  | nil => rfl
  | cons piece rest ih =>
    cases piece with
    | plain c => exact ih (position + 1) h
    | tag slashes content =>
      rw [tags] at h
      split_ifs at h with hodd
      rw [renderFrom, if_pos hodd]
      exact ih _ h

theorem splitContent_cons (hc : c ≠ '=') (rest : List Char) :
    splitContent (c :: rest) = (c :: (splitContent rest).1, (splitContent rest).2) := by
  simp [splitContent, hc]

/-- Where no tag is open, none can be closed. -/
theorem stepTag_nil_close (position : Nat) (rest : List Char) (openTags : List OpenTag) :
    stepTag [] position ('/' :: rest) ≠ .ok openTags := by
  simp only [stepTag, splitContent_cons (by decide : '/' ≠ '=')]
  split_ifs
  · exact nofun
  · cases tagName (Text.trim (splitContent rest).1) <;> exact nofun

theorem stepTag_of_head?_ne {openTags : List OpenTag} (position : Nat) {content : List Char}
    (h : content.head? ≠ some '/') :
    stepTag openTags position content = (do
      return ⟨← tagName (splitContent content).1, (splitContent content).2⟩ :: openTags) := by
  -- A name starts with a slash only if the content does: before `=` nothing is cut off.
  have hname : ∀ name, (splitContent content).1 ≠ '/' :: name := by
    intro name hname
    cases content with
    | nil => cases hname
    | cons c rest =>
      by_cases hc : c = '='
      · subst hc
        cases hname
      · rw [splitContent_cons hc] at hname
        exact h (congrArg some (List.cons.inj hname).1)
  unfold stepTag
  split
  · rename_i name _ heq
    exact absurd (congrArg Prod.fst heq) (hname name)
  · rename_i heq
    rw [heq]

/-- Where no tag is open, a tag passes if it is not faulty, wherever it stands. -/
theorem stepTag_nil_isOk_iff (position : Nat) (content : List Char) :
    (∃ openTags, stepTag [] position content = .ok openTags) ↔ ¬IsFaulty content := by
  by_cases h : content.head? = some '/'
  · obtain ⟨rest, rfl⟩ := List.head?_eq_some_iff.mp h
    refine iff_of_false ?_ fun hfaulty => hfaulty (Or.inl h)
    rintro ⟨openTags, hok⟩
    exact stepTag_nil_close position rest openTags hok
  · rw [stepTag_of_head?_ne position h]
    cases hname : tagName (splitContent content).1 with
    | error fault =>
      refine iff_of_false ?_ fun hfaulty => hfaulty (Or.inr ⟨fault, hname⟩)
      rintro ⟨openTags, hok⟩
      cases hok
    | ok name =>
      refine iff_of_true ⟨_, rfl⟩ ?_
      rintro (hslash | ⟨fault, hfault⟩)
      · exact h hslash
      · rw [hname] at hfault
        cases hfault

theorem renderFrom_of_tags_eq_singleton {pieces : List Piece} {content : List Char}
    (position : Nat) (h : tags pieces = [content]) :
    renderFrom [] position pieces = .ok () ↔ ¬IsFaulty content := by
  induction pieces generalizing position with
  | nil => cases h
  | cons piece rest ih =>
    cases piece with
    | plain c => exact ih (position + 1) h
    | tag slashes content' =>
      rw [tags] at h
      rw [renderFrom]
      split_ifs at h ⊢ with hodd
      · exact ih _ h
      · -- This is the one tag that acts; behind it nothing can go wrong any more.
        obtain ⟨rfl, hrest⟩ := List.cons.inj h
        rw [← stepTag_nil_isOk_iff (position + slashes)]
        cases stepTag [] (position + slashes) content' with
        | error fault => exact iff_of_false nofun nofun
        | ok openTags =>
          exact iff_of_true (renderFrom_of_tags_eq_nil openTags _ hrest) ⟨openTags, rfl⟩

theorem render_eq_ok_of_active_eq_nil {s : String} (h : active 0 s.toList = []) :
    render s = .ok () :=
  renderFrom_of_tags_eq_nil [] 0 (by rw [tags_scan, h])

theorem render_eq_ok_iff_of_active_eq_singleton {s : String} {content : List Char}
    (h : active 0 s.toList = [content]) : render s = .ok () ↔ ¬IsFaulty content :=
  renderFrom_of_tags_eq_singleton 0 (by rw [tags_scan, h])

end BoundedVars.Markup
