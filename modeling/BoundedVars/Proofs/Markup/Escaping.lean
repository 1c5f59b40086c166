import BoundedVars.Markup.Escape
import BoundedVars.Proofs.Markup.Active

/-!
# Escaping makes tags plain

Inside of an escaped text no tag acts.  But escaping looks at one text only: a bracket that opens
near the end of a text is left alone when nothing in that text closes it (`openEnd`), and it may be
closed by what follows the text.  `active_escapeFrom_append` says that this is the only tag that can
come about.

Escaping is followed character by character (`escapeFrom`), like the tags that act.
-/

namespace BoundedVars.Markup

variable {c : Char} {cs rest tail : List Char} {n : Nat}

/-- Escapes the rest of a text, behind `slashes` backslashes that have been passed already. -/
def escapeFrom (slashes : Nat) : List Char → List Char
  | [] => []
  | c :: rest =>
    if c == '\x5c' then '\x5c' :: escapeFrom (slashes + 1) rest
    else if c == '[' && opensTag rest then
      List.replicate (slashes + 1) '\x5c' ++ '[' :: escapeFrom 0 rest
    else c :: escapeFrom 0 rest

/-- The text has no brackets. -/
def isBracketless (cs : List Char) : Bool :=
  cs.all fun c => c != '[' && c != ']'

/-- What follows a `[` would make it the start of a tag if only it were closed. -/
def staysOpen : List Char → Bool
  | [] => false
  | c :: rest => startsTag c && isBracketless (c :: rest)

/-! ### Escaping character by character -/

@[simp] theorem escapeFrom_slash (rest : List Char) :
    escapeFrom n ('\x5c' :: rest) = '\x5c' :: escapeFrom (n + 1) rest := by
  simp [escapeFrom]

theorem escapeFrom_cons (hslash : c ≠ '\x5c') (hopen : c ≠ '[') (rest : List Char) :
    escapeFrom n (c :: rest) = c :: escapeFrom 0 rest := by
  simp [escapeFrom, hslash, hopen]

theorem escapeFrom_open (rest : List Char) :
    escapeFrom n ('[' :: rest) =
      if opensTag rest then List.replicate (n + 1) '\x5c' ++ '[' :: escapeFrom 0 rest
      else '[' :: escapeFrom 0 rest :=
  rfl

@[simp] theorem isBracketless_cons :
    isBracketless (c :: rest) = (c != '[' && c != ']' && isBracketless rest) :=
  rfl

theorem escapeFrom_of_isBracketless (h : isBracketless cs = true) : escapeFrom n cs = cs := by
  induction cs generalizing n with
  | nil => rfl
  | cons c rest ih =>
    rw [isBracketless_cons, Bool.and_eq_true, Bool.and_eq_true] at h
    by_cases hslash : c = '\x5c'
    · subst hslash
      rw [escapeFrom_slash, ih h.2]
    · rw [escapeFrom_cons hslash (by simpa using h.1.1), ih h.2]

/-- Where a bracket closes before the next one opens, the backslashes right before do not matter. -/
theorem escapeFrom_of_closesNext (h : closesNext cs = true) :
    escapeFrom n cs = escapeFrom 0 cs := by
  induction cs generalizing n with
  | nil => rfl
  | cons c rest ih =>
    by_cases hslash : c = '\x5c'
    · subst hslash
      rw [closesNext_cons (by decide)] at h
      rw [escapeFrom_slash, escapeFrom_slash, ih h, ← ih h]
    · have hopen : c ≠ '[' := by
        rintro rfl
        cases h
      rw [escapeFrom_cons hslash hopen, escapeFrom_cons hslash hopen]

/-- What escaping the pieces of a scan gives. -/
def Scan.escaped : Scan → List Char → List Char
  | outside slashes, cs => List.replicate slashes '\x5c' ++ escapeFrom slashes cs
  | inside slashes content, cs =>
    List.replicate (2 * slashes + 1) '\x5c' ++ '[' :: (content.reverse ++ escapeFrom 0 cs)

theorem flatMap_escaped_plainSlashes (n : Nat) :
    (plainSlashes n).flatMap Piece.escaped = List.replicate n '\x5c' := by
  induction n with
  | zero => rfl
  | succ n ih => exact congrArg ('\x5c' :: ·) ih

theorem flatMap_escaped_scanFrom (s : Scan) (cs : List Char) (h : s.Closes cs) :
    (scanFrom s cs).flatMap Piece.escaped = s.escaped cs := by
  fun_induction scanFrom s cs with
  | case1 slashes => simp [Scan.escaped, escapeFrom, flatMap_escaped_plainSlashes]
  | case2 slashes content => cases h
  | case3 slashes c rest hc ih =>
    rw [beq_iff_eq] at hc
    subst hc
    rw [ih trivial]
    simp [Scan.escaped, List.replicate_succ']
  | case4 slashes c rest hc hopen ih =>
    rw [Bool.and_eq_true, beq_iff_eq] at hopen
    obtain ⟨rfl, hopens⟩ := hopen
    -- All the backslashes counted so far are doubled here.
    rw [ih (closesNext_of_opensTag hopens), Scan.escaped, Scan.escaped, escapeFrom_open,
      if_pos hopens, ← List.append_assoc, List.replicate_append_replicate]
    congr 2
    omega
  | case5 slashes c rest hc hopen ih =>
    rw [List.flatMap_append, flatMap_escaped_plainSlashes, List.flatMap_cons, ih trivial]
    simp only [Bool.and_eq_true, not_and, Bool.not_eq_true] at hopen
    rw [beq_iff_eq] at hc hopen
    by_cases h : c = '['
    · subst h
      simp [Scan.escaped, escapeFrom_open, hopen rfl, Piece.escaped]
    · simp [Scan.escaped, escapeFrom_cons hc h, Piece.escaped]
  | case6 slashes content c rest hc ih =>
    rw [beq_iff_eq] at hc
    subst hc
    rw [List.flatMap_cons, ih trivial]
    simp [Scan.escaped, escapeFrom_cons, Piece.escaped, Piece.source]
  | case7 slashes content c rest hc ih =>
    rw [beq_iff_eq] at hc
    rw [Scan.Closes, closesNext_cons hc, Bool.and_eq_true] at h
    have hrest : escapeFrom 0 (c :: rest) = c :: escapeFrom 0 rest := by
      by_cases hslash : c = '\x5c'
      · rw [hslash, escapeFrom_slash, escapeFrom_of_closesNext h.2]
      · exact escapeFrom_cons hslash (by simpa using h.1) rest
    rw [ih h.2]
    simp [Scan.escaped, hrest]

/-- What is put behind an escaped text that ends in a lone backslash. -/
def guard (cs : List Char) : List Char :=
  if endsInLoneSlash cs then ['\x5c'] else []

theorem escapeChars_eq (cs : List Char) :
    escapeChars cs = escapeFrom 0 cs ++ guard (escapeFrom 0 cs) := by
  have h : (scan cs).flatMap Piece.escaped = escapeFrom 0 cs :=
    flatMap_escaped_scanFrom (.outside 0) cs trivial
  rw [escapeChars, h, guard]
  split_ifs
  · rfl
  · rw [List.append_nil]

/-! ### Brackets that close in a later text -/

/-- A text that can follow others: it neither starts like a tag nor goes on with one, and
backslashes before it do not matter. -/
structure Seals (tail : List Char) : Prop where
  active_eq : ∀ n, active n tail = active 0 tail
  opensTag_eq : opensTag tail = false

theorem seals_cons (hslash : c ≠ '\x5c') (hopen : c ≠ '[') (hstart : startsTag c = false)
    (rest : List Char) : Seals (c :: rest) where
  active_eq n := by rw [active_cons hslash hopen, active_cons hslash hopen]
  opensTag_eq := by rw [opensTag, hstart, Bool.false_and]

theorem Seals.guard_append (h : Seals tail) (cs : List Char) : Seals (guard cs ++ tail) := by
  unfold guard
  split_ifs
  · constructor
    · intro n
      simp only [List.singleton_append, active_slash]
      rw [h.active_eq, h.active_eq (0 + 1)]
    · rfl
  · exact h

@[simp] theorem closesNext_slashes_append (n : Nat) (cs : List Char) :
    closesNext (List.replicate n '\x5c' ++ cs) = closesNext cs := by
  induction n with
  | zero => rfl
  | succ n ih => exact (closesNext_cons (by decide)).trans ih

/-- A bracket that nothing in its text closes is closed by what follows the escaped text, if no
bracket stands in between. -/
theorem closesNext_escapeFrom_append (h : closesNext cs = false) (tail : List Char) :
    closesNext (escapeFrom n cs ++ tail) = (isBracketless cs && closesNext tail) := by
  induction cs generalizing n with
  | nil => rfl
  | cons c rest ih =>
    have hclose : c ≠ ']' := by
      rintro rfl
      cases h
    by_cases hopen : c = '['
    · subst hopen
      rw [escapeFrom_open]
      -- Escaped or not, this bracket is met before any that closes.
      split_ifs
      · rw [List.append_assoc, closesNext_slashes_append]
        rfl
      · rfl
    · have hbne : (c != '[') = true := bne_iff_ne.mpr hopen
      have hrest : closesNext rest = false := by
        rw [closesNext_cons hclose, hbne, Bool.true_and] at h
        exact h
      rw [isBracketless_cons, hbne, bne_iff_ne.mpr hclose, Bool.true_and, Bool.true_and]
      by_cases hslash : c = '\x5c'
      · subst hslash
        rw [escapeFrom_slash, List.cons_append, closesNext_cons (by decide), ih hrest]
        rfl
      · rw [escapeFrom_cons hslash hopen, List.cons_append, closesNext_cons hclose, ih hrest, hbne,
          Bool.true_and]

/-- A bracket that is closed in its text is closed in the same place when the text is escaped. -/
theorem upToClose_escapeFrom_append (h : closesNext cs = true) (tail : List Char) :
    closesNext (escapeFrom n cs ++ tail) = true ∧
      upToClose (escapeFrom n cs ++ tail) = upToClose cs := by
  induction cs generalizing n with
  | nil => cases h
  | cons c rest ih =>
    by_cases hclose : c = ']'
    · subst hclose
      rw [escapeFrom_cons (by decide) (by decide), List.cons_append]
      exact ⟨rfl, rfl⟩
    · rw [closesNext_cons hclose, Bool.and_eq_true] at h
      -- Before the bracket closes there is nothing to escape.
      have hchar : ∃ m, escapeFrom n (c :: rest) = c :: escapeFrom m rest := by
        by_cases hslash : c = '\x5c'
        · exact ⟨n + 1, by rw [hslash, escapeFrom_slash]⟩
        · exact ⟨0, escapeFrom_cons hslash (by simpa using h.1) rest⟩
      obtain ⟨m, hm⟩ := hchar
      obtain ⟨hcloses, hcontent⟩ := ih (n := m) h.2
      rw [hm, List.cons_append, closesNext_cons hclose, hcloses, h.1, upToClose_cons hclose,
        upToClose_cons hclose, hcontent]
      exact ⟨rfl, rfl⟩

theorem upToClose_append (h : isBracketless cs = true) (tail : List Char) :
    upToClose (cs ++ tail) = cs ++ upToClose tail := by
  induction cs with
  | nil => rfl
  | cons c rest ih =>
    rw [isBracketless_cons, Bool.and_eq_true, Bool.and_eq_true] at h
    rw [List.cons_append, upToClose_cons (by simpa using h.1.2), ih h.2, List.cons_append]

theorem closesNext_append (h : isBracketless cs = true) (tail : List Char) :
    closesNext (cs ++ tail) = closesNext tail := by
  induction cs with
  | nil => rfl
  | cons c rest ih =>
    rw [isBracketless_cons, Bool.and_eq_true, Bool.and_eq_true] at h
    rw [List.cons_append, closesNext_cons (by simpa using h.1.2), h.1.1, ih h.2, Bool.true_and]

/-- What follows the bracket that a text leaves open, if it would act as a tag once closed. -/
def openEnd (slashes : Nat) : List Char → Option (List Char)
  | [] => none
  | c :: rest =>
    if c == '\x5c' then openEnd (slashes + 1) rest
    else if c == '[' && staysOpen rest && slashes % 2 == 0 then some rest
    else openEnd 0 rest

@[simp] theorem openEnd_slash (rest : List Char) :
    openEnd n ('\x5c' :: rest) = openEnd (n + 1) rest := by
  simp [openEnd]

theorem openEnd_cons (hslash : c ≠ '\x5c') (hopen : c ≠ '[') (rest : List Char) :
    openEnd n (c :: rest) = openEnd 0 rest := by
  simp [openEnd, hslash, hopen]

theorem openEnd_open (rest : List Char) :
    openEnd n ('[' :: rest) = if staysOpen rest && n % 2 == 0 then some rest else openEnd 0 rest :=
  rfl

theorem isBracketless_of_staysOpen (h : staysOpen cs = true) : isBracketless cs = true := by
  cases cs with
  | nil => cases h
  | cons c rest => exact (Bool.and_eq_true_iff.mp h).2

theorem openEnd_of_isBracketless (h : isBracketless cs = true) : openEnd n cs = none := by
  induction cs generalizing n with
  | nil => rfl
  | cons c rest ih =>
    rw [isBracketless_cons, Bool.and_eq_true, Bool.and_eq_true] at h
    by_cases hslash : c = '\x5c'
    · rw [hslash, openEnd_slash, ih h.2]
    · rw [openEnd_cons hslash (by simpa using h.1.1), ih h.2]

theorem closesNext_of_isBracketless (h : isBracketless cs = true) : closesNext cs = false := by
  have hclose := closesNext_append h []
  rwa [List.append_nil] at hclose

/-- A tag that is closed in its text does not stay open. -/
theorem staysOpen_of_opensTag (h : opensTag cs = true) : staysOpen cs = false := by
  rw [← Bool.not_eq_true]
  intro hstays
  have hclose := closesNext_of_isBracketless (isBracketless_of_staysOpen hstays)
  rw [closesNext_of_opensTag h] at hclose
  cases hclose

/-- A bracket that starts no tag in its text starts one in a longer text if it stays open and is
closed there. -/
theorem opensTag_escapeFrom_append (h : opensTag cs = false) (htail : Seals tail) :
    opensTag (escapeFrom 0 cs ++ tail) = (staysOpen cs && closesNext tail) := by
  cases cs with
  | nil => exact htail.opensTag_eq
  | cons c rest =>
    rw [opensTag] at h
    rw [staysOpen, isBracketless_cons]
    by_cases hstart : startsTag c = true
    · obtain ⟨hopen, hclose, hslash⟩ := ne_brackets_of_startsTag hstart
      rw [hstart, Bool.true_and] at h
      rw [escapeFrom_cons hslash hopen, List.cons_append, opensTag, hstart,
        closesNext_escapeFrom_append h, bne_iff_ne.mpr hopen, bne_iff_ne.mpr hclose]
      rfl
    · rw [Bool.not_eq_true] at hstart
      -- What is escaped here starts with a backslash or with the character itself.
      have hhead : ∃ d more, startsTag d = false ∧ escapeFrom 0 (c :: rest) = d :: more := by
        unfold escapeFrom
        split_ifs
        · exact ⟨_, _, by decide, rfl⟩
        · exact ⟨_, _, by decide, rfl⟩
        · exact ⟨_, _, hstart, rfl⟩
      obtain ⟨d, more, hd, heq⟩ := hhead
      rw [heq, List.cons_append, opensTag, hd, hstart, Bool.false_and, Bool.false_and,
        Bool.false_and]

/-- The tag that comes about when the bracket left open is closed by what follows. -/
def closing (opened : Option (List Char)) (tail : List Char) : List (List Char) :=
  match opened with
  | some rest => if closesNext tail then [rest ++ upToClose tail] else []
  | none => []

@[simp] theorem active_slashes_append (m : Nat) (cs : List Char) :
    active n (List.replicate m '\x5c' ++ cs) = active (n + m) cs := by
  induction m generalizing n with
  | zero => rfl
  | succ m ih => rw [List.replicate_succ, List.cons_append, active_slash, ih, Nat.add_right_comm,
      Nat.add_assoc]

/-- **No tag acts inside of an escaped text**, and only the bracket it leaves open can make one with
what follows. -/
theorem active_escapeFrom_append (htail : Seals tail) (cs : List Char) :
    active n (escapeFrom n cs ++ tail) = closing (openEnd n cs) tail ++ active 0 tail := by
  induction cs generalizing n with
  | nil => exact htail.active_eq n
  | cons c rest ih =>
    by_cases hslash : c = '\x5c'
    · subst hslash
      rw [escapeFrom_slash, List.cons_append, active_slash, openEnd_slash, ih]
    · by_cases hopen : c = '['
      · subst hopen
        rw [escapeFrom_open, openEnd_open]
        cases hopens : opensTag rest with
        | true =>
          -- The backslashes before the tag are now odd in number.
          have hodd : (n + (n + 1)) % 2 ≠ 0 := by omega
          rw [staysOpen_of_opensTag hopens, if_pos rfl, List.append_assoc, active_slashes_append,
            List.cons_append, active_open, beq_false_of_ne hodd, Bool.and_false, ih]
          rfl
        | false =>
          -- The bracket is left alone, and the tail may close it if nothing else is in between.
          rw [if_neg (by decide), List.cons_append, active_open,
            opensTag_escapeFrom_append hopens htail, ih]
          cases hstays : staysOpen rest with
          | false => rfl
          | true =>
            have hbrackets := isBracketless_of_staysOpen hstays
            rw [openEnd_of_isBracketless hbrackets, escapeFrom_of_isBracketless hbrackets,
              upToClose_append hbrackets]
            cases hparity : n % 2 == 0 <;> cases hclose : closesNext tail <;> simp [closing, hclose]
      · rw [escapeFrom_cons hslash hopen, List.cons_append, active_cons hslash hopen,
          openEnd_cons hslash hopen, ih]

end BoundedVars.Markup
