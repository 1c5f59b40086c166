import BoundedVars.Proofs.Markup.Escaping

/-!
# Escaped texts joined to one another

When escaped texts are joined with something in between, the bracket that one of them leaves open
may be closed by the other.  `Clash` describes when this makes a tag that is a fault:
`render_joined_eq_ok_iff` says that this is the only thing that can be wrong with the joined text.
A single escaped text has nothing wrong with it, whatever stands around it
(`active_escapeChars_append_of_isNeutral`).
-/

namespace BoundedVars.Markup

variable {c : Char} {cs rest tail : List Char} {n : Nat}

/-! ### The end of a text -/

/-- The number of backslashes that a text ends in. -/
def trailingSlashes (cs : List Char) : Nat :=
  (cs.reverse.takeWhile (· == '\x5c')).length

theorem trailingSlashes_append_cons (hslash : c ≠ '\x5c') (front back : List Char) :
    trailingSlashes (front ++ c :: back) = trailingSlashes back := by
  -- Read from the back, the backslashes end at `c` at the latest.
  have htake : ∀ xs : List Char,
      (xs ++ c :: front.reverse).takeWhile (· == '\x5c') = xs.takeWhile (· == '\x5c') := by
    intro xs
    induction xs with
    | nil => simp [hslash]
    | cons x xs ih => simp only [List.cons_append, List.takeWhile_cons, ih]
  rw [trailingSlashes, List.reverse_append, List.reverse_cons, List.append_assoc,
    List.singleton_append, htake]
  rfl

theorem trailingSlashes_replicate (n : Nat) :
    trailingSlashes (List.replicate n '\x5c') = n := by
  simp [trailingSlashes]

theorem endsInLoneSlash_eq (cs : List Char) :
    endsInLoneSlash cs = (trailingSlashes cs == 1) := by
  unfold endsInLoneSlash trailingSlashes
  split
  · rename_i h
    rw [h]
    simp
  · rename_i rest hlone h
    rw [h]
    cases rest with
    | nil => rfl
    | cons c rest =>
      -- The text ends in one backslash and before it in something else.
      have hc : c ≠ '\x5c' := by
        rintro rfl
        exact hlone rest rfl
      simp [hc]
  · rename_i hslash hlone
    cases h : cs.reverse with
    | nil => rfl
    | cons c rest =>
      have hc : c ≠ '\x5c' := by
        rintro rfl
        exact hlone rest h
      simp [hc]

theorem guard_append_cons (hslash : c ≠ '\x5c') (front back : List Char) :
    guard (front ++ c :: back) = guard back := by
  rw [guard, guard, endsInLoneSlash_eq, endsInLoneSlash_eq, trailingSlashes_append_cons hslash]

theorem trailingSlashes_replicate_cons_slash (n : Nat) (before : List Char) :
    trailingSlashes (List.replicate n '\x5c' ++ '\x5c' :: before) =
      trailingSlashes (List.replicate (n + 1) '\x5c' ++ before) := by
  rw [List.replicate_succ', List.append_assoc]
  rfl

/-- The bracket that a text leaves open is the last one in it, with nothing closing behind it and an
even number of backslashes before it. -/
theorem exists_of_openEnd (h : openEnd n cs = some rest) :
    ∃ before, cs = before ++ '[' :: rest ∧ staysOpen rest = true ∧
      trailingSlashes (List.replicate n '\x5c' ++ before) % 2 = 0 := by
  induction cs generalizing n with
  | nil => cases h
  | cons c cs ih =>
    by_cases hslash : c = '\x5c'
    · subst hslash
      rw [openEnd_slash] at h
      obtain ⟨before, rfl, hstays, heven⟩ := ih h
      refine ⟨'\x5c' :: before, rfl, hstays, ?_⟩
      rwa [trailingSlashes_replicate_cons_slash]
    · -- Behind another character the count starts anew, and what comes before does not matter.
      have hlater : openEnd 0 cs = some rest → ∃ before, c :: cs = before ++ '[' :: rest ∧
          staysOpen rest = true ∧
          trailingSlashes (List.replicate n '\x5c' ++ before) % 2 = 0 := by
        intro hsome
        obtain ⟨before, rfl, hstays, heven⟩ := ih hsome
        refine ⟨c :: before, rfl, hstays, ?_⟩
        rwa [trailingSlashes_append_cons hslash]
      by_cases hopen : c = '['
      · subst hopen
        rw [openEnd_open] at h
        split_ifs at h with hstays
        · obtain rfl := Option.some.inj h
          rw [Bool.and_eq_true, beq_iff_eq] at hstays
          refine ⟨[], rfl, hstays.1, ?_⟩
          rw [List.append_nil, trailingSlashes_replicate, hstays.2]
        · exact hlater h
      · rw [openEnd_cons hslash hopen] at h
        exact hlater h

theorem openEnd_append_open (hstays : staysOpen rest = true) (before : List Char)
    (heven : trailingSlashes (List.replicate n '\x5c' ++ before) % 2 = 0) :
    openEnd n (before ++ '[' :: rest) = some rest := by
  induction before generalizing n with
  | nil =>
    rw [List.append_nil, trailingSlashes_replicate] at heven
    rw [List.nil_append, openEnd_open, hstays, heven]
    rfl
  | cons c before ih =>
    rw [List.cons_append]
    by_cases hslash : c = '\x5c'
    · subst hslash
      rw [trailingSlashes_replicate_cons_slash] at heven
      rw [openEnd_slash, ih heven]
    · rw [trailingSlashes_append_cons hslash] at heven
      by_cases hopen : c = '['
      · -- This bracket does not stay open: another one follows.
        have hbrackets : staysOpen (before ++ '[' :: rest) = false := by
          rw [← Bool.not_eq_true]
          intro h
          have hall := isBracketless_of_staysOpen h
          rw [isBracketless, List.all_eq_true] at hall
          exact absurd (hall '[' (by simp)) (by decide)
        rw [hopen, openEnd_open, hbrackets]
        exact ih (n := 0) heven
      · rw [openEnd_cons hslash hopen]
        exact ih (n := 0) heven

theorem openEnd_eq_some_iff :
    openEnd 0 cs = some rest ↔ ∃ before, cs = before ++ '[' :: rest ∧ staysOpen rest = true ∧
      trailingSlashes before % 2 = 0 := by
  constructor
  · exact exists_of_openEnd
  · rintro ⟨before, rfl, hstays, heven⟩
    exact openEnd_append_open hstays before heven

/-- Escaping leaves the open bracket alone and all that follows it. -/
theorem escapeFrom_append_open (hstays : staysOpen rest = true) (before : List Char) :
    ∃ front, escapeFrom n (before ++ '[' :: rest) = front ++ '[' :: rest := by
  induction before generalizing n with
  | nil =>
    have hopens : opensTag rest = false := by
      rw [← Bool.not_eq_true]
      intro h
      rw [staysOpen_of_opensTag h] at hstays
      cases hstays
    refine ⟨[], ?_⟩
    rw [List.nil_append, escapeFrom_open, hopens, if_neg Bool.false_ne_true,
      escapeFrom_of_isBracketless (isBracketless_of_staysOpen hstays)]
  | cons c before ih =>
    -- Whatever becomes of one character, the others are escaped from some count on.
    have hpush : ∃ front m, escapeFrom n (c :: (before ++ '[' :: rest)) =
        front ++ escapeFrom m (before ++ '[' :: rest) := by
      rw [escapeFrom]
      split_ifs
      · exact ⟨['\x5c'], n + 1, rfl⟩
      · exact ⟨List.replicate (n + 1) '\x5c' ++ ['['], 0, by simp⟩
      · exact ⟨[c], 0, rfl⟩
    obtain ⟨front, m, hfront⟩ := hpush
    obtain ⟨more, hmore⟩ := ih (n := m)
    exact ⟨front ++ more, by rw [List.cons_append, hfront, hmore, List.append_assoc]⟩

theorem escapeChars_of_openEnd (h : openEnd 0 cs = some rest) :
    rest ++ guard (escapeFrom 0 cs) = escapeChars rest := by
  obtain ⟨before, rfl, hstays, -⟩ := openEnd_eq_some_iff.mp h
  obtain ⟨front, hfront⟩ := escapeFrom_append_open hstays before (n := 0)
  rw [hfront, guard_append_cons (by decide), escapeChars_eq,
    escapeFrom_of_isBracketless (isBracketless_of_staysOpen hstays)]

/-! ### Two escaped texts -/

/-- A text that can stand between escaped ones or behind them: it has no brackets, does not start
like a tag, and has no backslash at either end. -/
def isNeutral (cs : List Char) : Bool :=
  isBracketless cs && cs.head?.any (fun c => c != '\x5c' && !startsTag c)
    && cs.getLast? != some '\x5c'

theorem isBracketless_of_isNeutral (h : isNeutral cs = true) : isBracketless cs = true := by
  rw [isNeutral, Bool.and_eq_true, Bool.and_eq_true] at h
  exact h.1.1

theorem seals_append_of_isNeutral (h : isNeutral cs = true) (tail : List Char) :
    Seals (cs ++ tail) := by
  rw [isNeutral, Bool.and_eq_true, Bool.and_eq_true] at h
  cases cs with
  | nil => cases h.1.2
  | cons c rest =>
    have hstart : c ≠ '\x5c' ∧ startsTag c = false := by simpa using h.1.2
    have hopen : c ≠ '[' := by
      rw [isBracketless_cons, Bool.and_eq_true, Bool.and_eq_true] at h
      simpa using h.1.1.1.1
    exact seals_cons hstart.1 hopen hstart.2 (rest ++ tail)

theorem active_of_isBracketless (h : isBracketless cs = true) : active n cs = [] := by
  induction cs generalizing n with
  | nil => rfl
  | cons c rest ih =>
    rw [isBracketless_cons, Bool.and_eq_true, Bool.and_eq_true] at h
    by_cases hslash : c = '\x5c'
    · rw [hslash, active_slash, ih h.2]
    · rw [active_cons hslash (by simpa using h.1.1), ih h.2]

/-- Behind a text without brackets that does not end in a backslash, everything starts anew. -/
theorem active_append_of_isBracketless (h : isBracketless cs = true) (hne : cs ≠ [])
    (hlast : cs.getLast? ≠ some '\x5c') (tail : List Char) :
    active n (cs ++ tail) = active 0 tail := by
  induction cs generalizing n with
  | nil => exact absurd rfl hne
  | cons c rest ih =>
    rw [isBracketless_cons, Bool.and_eq_true, Bool.and_eq_true] at h
    -- The induction needs a last character, so it ends with a list of one.
    have hstep : ∃ m, active n (c :: (rest ++ tail)) = active m (rest ++ tail) := by
      by_cases hslash : c = '\x5c'
      · exact ⟨n + 1, by rw [hslash, active_slash]⟩
      · exact ⟨0, active_cons hslash (by simpa using h.1.1) _⟩
    cases rest with
    | nil =>
      have hslash : c ≠ '\x5c' := fun hc => hlast (congrArg some hc)
      exact active_cons hslash (by simpa using h.1.1) tail
    | cons d rest =>
      obtain ⟨m, hm⟩ := hstep
      rw [List.cons_append, hm]
      exact ih h.2 nofun (by rwa [List.getLast?_cons_cons] at hlast)

theorem active_append_of_isNeutral (h : isNeutral cs = true) (tail : List Char) :
    active n (cs ++ tail) = active 0 tail := by
  refine active_append_of_isBracketless (isBracketless_of_isNeutral h) ?_ ?_ tail
  · rintro rfl
    cases h
  · rw [isNeutral, Bool.and_eq_true] at h
    simpa using h.2

theorem isBracketless_guard (cs : List Char) : isBracketless (guard cs) = true := by
  unfold guard
  split_ifs <;> rfl

/-- What stands before the first bracket of a text, if that closes. -/
def firstClosed (cs : List Char) : Option (List Char) :=
  if closesNext cs then some (upToClose cs) else none

theorem firstClosed_eq_some_iff {first : List Char} :
    firstClosed cs = some first ↔
      isBracketless first = true ∧ ∃ after, cs = first ++ ']' :: after := by
  constructor
  · intro h
    rw [firstClosed] at h
    split_ifs at h with hclose
    obtain rfl := Option.some.inj h
    clear h
    -- The characters before the bracket that closes are gone through one by one.
    induction cs with
    | nil => cases hclose
    | cons c rest ih =>
      by_cases hc : c = ']'
      · subst hc
        exact ⟨rfl, rest, rfl⟩
      · rw [closesNext_cons hc, Bool.and_eq_true] at hclose
        obtain ⟨hbrackets, after, hafter⟩ := ih hclose.2
        rw [upToClose_cons hc, isBracketless_cons, hclose.1, bne_iff_ne.mpr hc, hbrackets]
        exact ⟨rfl, after, congrArg (c :: ·) hafter⟩
  · rintro ⟨hbrackets, after, rfl⟩
    rw [firstClosed, closesNext_append hbrackets, upToClose_append hbrackets, upToClose_close,
      List.append_nil]
    rfl

/-- A bracket that closes in what follows an escaped text closes in the text itself. -/
theorem firstClosed_escapeChars_append (hlast : isBracketless tail = true) (cs : List Char) :
    firstClosed (escapeChars cs ++ tail) = firstClosed cs := by
  rw [escapeChars_eq, List.append_assoc, firstClosed, firstClosed]
  cases h : closesNext cs with
  | true =>
    obtain ⟨hcloses, hcontent⟩ := upToClose_escapeFrom_append h _
    rw [hcloses, hcontent]
  | false =>
    rw [closesNext_escapeFrom_append h, closesNext_append (isBracketless_guard _),
      closesNext_of_isBracketless hlast, Bool.and_false]
    rfl

theorem firstClosed_append (h : isBracketless cs = true) (tail : List Char) :
    firstClosed (cs ++ tail) = (firstClosed tail).map (cs ++ ·) := by
  rw [firstClosed, firstClosed, closesNext_append h, upToClose_append h]
  split_ifs <;> rfl

theorem closing_some (opened tail : List Char) :
    closing (some opened) tail = ((firstClosed tail).map (opened ++ ·)).toList := by
  rw [closing, firstClosed]
  split_ifs <;> rfl

/-- The tag that comes about when escaped texts are joined, with `middle` between them: from the
bracket that one leaves open to the one that closes first in the other. -/
def joint (left middle right : List Char) : Option (List Char) := do
  let opened ← openEnd 0 left
  let closed ← firstClosed right
  return escapeChars opened ++ middle ++ closed

theorem active_escapeChars_append (htail : Seals tail) (cs : List Char) :
    active 0 (escapeChars cs ++ tail) =
      closing ((openEnd 0 cs).map escapeChars) tail ++ active 0 tail := by
  have hguard := htail.guard_append (escapeFrom 0 cs)
  have hactive : active 0 (guard (escapeFrom 0 cs) ++ tail) = active 0 tail := by
    unfold guard
    split_ifs
    · exact htail.active_eq (0 + 1)
    · rfl
  rw [escapeChars_eq, List.append_assoc, active_escapeFrom_append hguard, hactive]
  congr 1
  cases h : openEnd 0 cs with
  | none => rfl
  | some opened =>
    rw [Option.map_some, closing_some, closing_some, firstClosed_append (isBracketless_guard _),
      ← escapeChars_of_openEnd h]
    cases firstClosed tail <;> simp

theorem active_escapeChars_append_of_seals (hseals : Seals tail) (h : isBracketless tail = true)
    (cs : List Char) : active 0 (escapeChars cs ++ tail) = [] := by
  rw [active_escapeChars_append hseals, active_of_isBracketless h, List.append_nil]
  cases openEnd 0 cs with
  | none => rfl
  | some opened =>
    rw [Option.map_some, closing_some, firstClosed, closesNext_of_isBracketless h]
    rfl

theorem active_escapeChars_append_of_isNeutral (h : isNeutral tail = true) (cs : List Char) :
    active 0 (escapeChars cs ++ tail) = [] := by
  have hseals : Seals tail := by
    have hnil := seals_append_of_isNeutral h []
    rwa [List.append_nil] at hnil
  exact active_escapeChars_append_of_seals hseals (isBracketless_of_isNeutral h) cs

theorem active_escapeChars (cs : List Char) : active 0 (escapeChars cs) = [] := by
  have hseals : Seals [] := ⟨fun _ => rfl, rfl⟩
  have hnil := active_escapeChars_append_of_seals hseals rfl cs
  rwa [List.append_nil] at hnil

/-- **The only tag that acts in escaped texts joined** is the one across the joint, if there is
one. -/
theorem active_joined {left middle right last : List Char} (hmiddle : isNeutral middle = true)
    (hlast : isNeutral last = true) :
    active 0 (escapeChars left ++ (middle ++ (escapeChars right ++ last))) =
      (joint left middle right).toList := by
  have hlastBrackets := isBracketless_of_isNeutral hlast
  rw [active_escapeChars_append (seals_append_of_isNeutral hmiddle _),
    active_append_of_isNeutral hmiddle, active_escapeChars_append_of_isNeutral hlast,
    List.append_nil, joint]
  cases openEnd 0 left with
  | none => rfl
  | some opened =>
    rw [Option.map_some, closing_some, firstClosed_append (isBracketless_of_isNeutral hmiddle),
      firstClosed_escapeChars_append hlastBrackets]
    cases firstClosed right <;> simp

/-! ### Rendering -/

/-- Texts clash when one leaves a bracket open, the other closes it, and the tag that this makes in
their joined escaped forms is a fault.  The open bracket is followed by the start of a tag and no
other bracket, it has an even number of backslashes before it, and the closing bracket is the first
bracket of the other text. -/
def Clash (left middle right : String) : Prop :=
  ∃ before opened closed after,
    left.toList = before ++ '[' :: opened ∧ right.toList = closed ++ ']' :: after ∧
    staysOpen opened = true ∧ isBracketless closed = true ∧ trailingSlashes before % 2 = 0 ∧
    IsFaulty (escapeChars opened ++ middle.toList ++ closed)

theorem clash_iff {left middle right : String} :
    Clash left middle right ↔
      ∃ content, joint left.toList middle.toList right.toList = some content ∧
        IsFaulty content := by
  constructor
  · rintro ⟨before, opened, closed, after, hleft, hright, hstays, hclosed, heven, hfaulty⟩
    have hopen : openEnd 0 left.toList = some opened :=
      openEnd_eq_some_iff.mpr ⟨before, hleft, hstays, heven⟩
    have hclose : firstClosed right.toList = some closed :=
      firstClosed_eq_some_iff.mpr ⟨hclosed, after, hright⟩
    exact ⟨_, by rw [joint, hopen, hclose]; rfl, hfaulty⟩
  · rintro ⟨content, hjoint, hfaulty⟩
    simp only [joint, Option.bind_eq_bind, Option.bind_eq_some_iff] at hjoint
    obtain ⟨opened, hopen, closed, hclose, hcontent⟩ := hjoint
    obtain rfl := Option.some.inj hcontent
    obtain ⟨before, hleft, hstays, heven⟩ := openEnd_eq_some_iff.mp hopen
    obtain ⟨hclosed, after, hright⟩ := firstClosed_eq_some_iff.mp hclose
    exact ⟨before, opened, closed, after, hleft, hright, hstays, hclosed, heven, hfaulty⟩

theorem not_clash_of_not_mem {left : String} (h : '[' ∉ left.toList) (middle right : String) :
    ¬Clash left middle right := by
  rintro ⟨before, opened, closed, after, hleft, -⟩
  rw [hleft] at h
  exact h (by simp)

/-- **Escaped texts joined can be rendered unless they clash.** -/
theorem render_joined_eq_ok_iff {first middle last : String}
    (hfirst : isNeutral first.toList = true)
    (hmiddle : isNeutral middle.toList = true) (hlast : isNeutral last.toList = true)
    (left right : String) :
    render (first ++ escape left ++ middle ++ escape right ++ last) = .ok () ↔
      ¬Clash left middle right := by
  -- All that can be active is a tag that begins in the left text and ends in the right one.
  have hactive : active 0 (first ++ escape left ++ middle ++ escape right ++ last).toList =
      (joint left.toList middle.toList right.toList).toList := by
    simp only [String.toList_append, escape, String.toList_ofList, List.append_assoc]
    rw [active_append_of_isNeutral hfirst, active_joined hmiddle hlast]
  rw [clash_iff]
  cases h : joint left.toList middle.toList right.toList with
  | none =>
    rw [h] at hactive
    exact iff_of_true (render_eq_ok_of_active_eq_nil hactive) (by simp)
  | some content =>
    rw [h] at hactive
    rw [render_eq_ok_iff_of_active_eq_singleton hactive]
    simp

end BoundedVars.Markup
