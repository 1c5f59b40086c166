import BoundedVars.Number.Numeral
import BoundedVars.Proofs.Text.Trimming
import Mathlib.Data.List.Forall2
import Mathlib.Data.List.Pairwise
import Mathlib.Data.Nat.Digits.Defs

/-!
# Numerals and the integers they denote

A numeral is an optional sign and digits, each of whatever script, with single underscores between
some of them (`Numeral.Denotes`).  What is read from a text is the integer that a numeral denotes
with blanks around it (`signed?_trimWhere_eq_some_iff`), whichever blanks those are; and an integer
written out in decimal, with underscores put between digits, is a numeral for itself
(`writes_decimal`).
-/

namespace BoundedVars

/-! ### Digits -/

namespace Text

/-- No digit of a script stands among those of another one. -/
theorem pairwise_digitZeros : digitZeros.Pairwise fun a b => a + 10 ≤ b := by decide

/-- A character is a digit if it stands at the place of that digit in some script. -/
theorem digit?_eq_some_iff {c : Char} {d : Nat} :
    digit? c = some d ↔ ∃ first ∈ digitZeros, d < 10 ∧ c.toNat = first + d := by
  rw [digit?, Option.map_eq_some_iff]
  constructor
  · rintro ⟨first, hfind, rfl⟩
    have hfirst := List.find?_some hfind
    simp only [Bool.and_eq_true, decide_eq_true_eq] at hfirst
    exact ⟨first, List.mem_of_find?_eq_some hfind, by omega, by omega⟩
  · rintro ⟨first, hmem, hd, hc⟩
    have hsome : (digitZeros.find? fun first =>
        decide (first ≤ c.toNat) && decide (c.toNat < first + 10)).isSome = true := by
      refine List.find?_isSome.mpr ⟨first, hmem, ?_⟩
      simp only [Bool.and_eq_true, decide_eq_true_eq]
      omega
    obtain ⟨found, hfind⟩ := Option.isSome_iff_exists.mp hsome
    have hfound := List.find?_some hfind
    simp only [Bool.and_eq_true, decide_eq_true_eq] at hfound
    -- Another script with a digit at this place would overlap with this one.
    have hsame : found = first := by
      by_contra hne
      have hsymm : Std.Symm fun a b : Nat => a + 10 ≤ b ∨ b + 10 ≤ a := ⟨fun _ _ => Or.symm⟩
      have hapart : digitZeros.Pairwise fun a b => a + 10 ≤ b ∨ b + 10 ≤ a :=
        pairwise_digitZeros.imp Or.inl
      have := hapart.forall (List.mem_of_find?_eq_some hfind) hmem hne
      omega
    exact ⟨found, hfind, by omega⟩

/-- A digit is no blank. -/
theorem isBlank_of_digit? {c : Char} {d : Nat} (h : digit? c = some d) : isBlank c = false := by
  obtain ⟨first, hfirst, hd, hc⟩ := digit?_eq_some_iff.mp h
  have hfar : ∀ first ∈ digitZeros, ∀ blank ∈ blanks, blank < first ∨ first + 10 ≤ blank := by
    decide
  rw [isBlank, Bool.eq_false_iff, ne_eq, List.contains_iff_mem]
  intro hblank
  have := hfar first hfirst _ hblank
  omega

/-- The digits of ASCII have their own values. -/
theorem digit?_of_isDigit {c : Char} (h : c.isDigit = true) : digit? c = some (c.toNat - 48) := by
  have hc : 48 ≤ c.toNat ∧ c.toNat ≤ 57 := by
    simp only [Char.isDigit, Bool.and_eq_true, decide_eq_true_eq] at h
    exact h
  exact digit?_eq_some_iff.mpr ⟨48, by decide, by omega, by omega⟩

end Text

namespace Numeral

variable {cs plain grouped : List Char} {ds : List Nat}

/-- Characters with single underscores put between some of them. -/
inductive Grouped : List Char → List Char → Prop
  | single (c : Char) : Grouped [c] [c]
  | next (c : Char) {plain grouped : List Char} (rest : Grouped plain grouped) :
      Grouped (c :: plain) (c :: grouped)
  | gap (c : Char) {plain grouped : List Char} (rest : Grouped plain grouped) :
      Grouped (c :: plain) (c :: '_' :: grouped)

theorem Grouped.ne_nil (h : Grouped plain grouped) : grouped ≠ [] := by
  cases h <;> exact List.cons_ne_nil _ _

theorem Grouped.head?_eq (h : Grouped plain grouped) : grouped.head? = plain.head? := by
  cases h <;> rfl

theorem Grouped.getLast?_eq (h : Grouped plain grouped) : grouped.getLast? = plain.getLast? := by
  induction h with
  | single c => rfl
  | next c rest ih => rw [List.getLast?_cons, List.getLast?_cons, ih]
  | gap c rest ih =>
    -- Something stands behind the underscore.
    have hlast := List.getLast?_eq_some_getLast rest.ne_nil
    rw [List.getLast?_cons, List.getLast?_cons, List.getLast?_cons, ← ih, hlast]
    rfl

/-- Characters are the digits of the given values. -/
def AreDigits (plain : List Char) (ds : List Nat) : Prop :=
  List.Forall₂ (fun c d => Text.digit? c = some d) plain ds

theorem AreDigits.exists_digit {c : Char} (h : AreDigits plain ds) (hc : c ∈ plain) :
    ∃ d, Text.digit? c = some d := by
  induction h with
  | nil => cases hc
  | cons hd _ ih =>
    rcases List.mem_cons.mp hc with rfl | hc
    · exact ⟨_, hd⟩
    · exact ih hc

theorem AreDigits.lt_ten {d : Nat} (h : AreDigits plain ds) (hd : d ∈ ds) : d < 10 := by
  induction h with
  | nil => cases hd
  | cons hc _ ih =>
    rcases List.mem_cons.mp hd with rfl | hd
    · obtain ⟨first, -, hsmall, -⟩ := Text.digit?_eq_some_iff.mp hc
      exact hsmall
    · exact ih hd

theorem AreDigits.head?_ne_underscore (h : AreDigits plain ds) : plain.head? ≠ some '_' := by
  intro hhead
  obtain ⟨d, hd⟩ := h.exists_digit (List.mem_of_mem_head? hhead)
  have hnone : Text.digit? '_' = none := by decide
  exact Option.some_ne_none d (hd.symm.trans hnone)

/-- A character that is no underscore continues the digits. -/
theorem digits?_cons {c : Char} (hgap : cs.head? ≠ some '_') (hcs : cs ≠ []) :
    digits? (c :: cs) = (do return (← Text.digit? c) :: (← digits? cs)) := by
  rw [digits?]
  · exact hcs
  · rintro rest rfl
    exact hgap rfl

/-- A digit and digits are read together where both are. -/
theorem cons_eq_some_iff {first : Option Nat} {rest : Option (List Nat)} :
    (do return (← first) :: (← rest)) = some ds ↔
      ∃ d ds', first = some d ∧ rest = some ds' ∧ ds = d :: ds' := by
  cases first <;> cases rest <;> simp [eq_comm]

/-- **Digits are read where there are some**, each with or without an underscore before it. -/
theorem digits?_eq_some_iff :
    digits? cs = some ds ↔ ∃ plain, Grouped plain cs ∧ AreDigits plain ds := by
  constructor
  · intro h
    fun_induction digits? cs generalizing ds with
    | case1 => cases h
    | case2 c =>
      obtain ⟨d, hd, rfl⟩ := Option.map_eq_some_iff.mp h
      exact ⟨[c], .single c, .cons hd .nil⟩
    | case3 c rest ih =>
      obtain ⟨d, ds', hd, hds, rfl⟩ := cons_eq_some_iff.mp h
      obtain ⟨plain, hgrouped, hdigits⟩ := ih hds
      exact ⟨c :: plain, .gap c hgrouped, .cons hd hdigits⟩
    | case4 c rest _ _ ih =>
      obtain ⟨d, ds', hd, hds, rfl⟩ := cons_eq_some_iff.mp h
      obtain ⟨plain, hgrouped, hdigits⟩ := ih hds
      exact ⟨c :: plain, .next c hgrouped, .cons hd hdigits⟩
  · rintro ⟨plain, hgrouped, hdigits⟩
    -- An underscore is no digit, so the digits tell where one was put.
    induction hgrouped generalizing ds with
    | single c =>
      cases hdigits with
      | cons hd hrest =>
        cases hrest
        rw [digits?, hd]
        rfl
    | next c rest ih =>
      cases hdigits with
      | cons hd hrest =>
        have hrest : AreDigits _ _ := hrest
        rw [digits?_cons (rest.head?_eq ▸ hrest.head?_ne_underscore) rest.ne_nil, hd, ih hrest]
        rfl
    | gap c rest ih =>
      cases hdigits with
      | cons hd hrest =>
        rw [digits?, hd, ih hrest]
        rfl

/-- The first digit counts most. -/
theorem value_eq_ofDigits (ds : List Nat) : value ds = Nat.ofDigits 10 ds.reverse := by
  rw [value, Nat.ofDigits_eq_foldr, List.foldr_reverse]
  exact congrArg (fun f => ds.foldl f 0) (funext₂ fun n d => Nat.add_comm _ _)

/-! ### Numerals -/

/-- Characters write a natural number: digits, not too many, with single underscores between some
of them, of which the first counts most. -/
def Writes (cs : List Char) (n : Nat) : Prop :=
  ∃ plain ds, Grouped plain cs ∧ AreDigits plain ds ∧ ds.length ≤ maxDigits ∧
    n = Nat.ofDigits 10 ds.reverse

/-- A numeral denotes an integer. -/
inductive Denotes : List Char → Int → Prop
  | unsigned {cs : List Char} {n : Nat} (h : Writes cs n) : Denotes cs n
  | plus {cs : List Char} {n : Nat} (h : Writes cs n) : Denotes ('+' :: cs) n
  | minus {cs : List Char} {n : Nat} (h : Writes cs n) : Denotes ('-' :: cs) (-n)

variable {m : Nat} {n : Int}

theorem natural?_eq_some_iff : natural? cs = some m ↔ Writes cs m := by
  unfold natural?
  constructor
  · intro h
    obtain ⟨ds, hds, h⟩ := Option.bind_eq_some_iff.mp h
    obtain ⟨plain, hgrouped, hdigits⟩ := digits?_eq_some_iff.mp hds
    split_ifs at h with hlength
    obtain rfl := Option.some.inj h
    exact ⟨plain, ds, hgrouped, hdigits, hlength, value_eq_ofDigits ds⟩
  · rintro ⟨plain, ds, hgrouped, hdigits, hlength, rfl⟩
    rw [digits?_eq_some_iff.mpr ⟨plain, hgrouped, hdigits⟩, Option.bind_eq_bind, Option.bind_some,
      if_pos hlength, value_eq_ofDigits]

/-- What writes a number begins with a digit. -/
theorem Writes.exists_first (h : Writes cs m) :
    ∃ c rest d, cs = c :: rest ∧ Text.digit? c = some d := by
  obtain ⟨plain, ds, hgrouped, hdigits, -, -⟩ := h
  obtain ⟨c, rest, rfl⟩ := List.exists_cons_of_ne_nil hgrouped.ne_nil
  obtain ⟨d, hd⟩ := hdigits.exists_digit (List.mem_of_mem_head? hgrouped.head?_eq.symm)
  exact ⟨c, rest, d, rfl, hd⟩

/-- What writes a number ends with a digit. -/
theorem Writes.exists_last (h : Writes cs m) :
    ∃ c d, cs.getLast? = some c ∧ Text.digit? c = some d := by
  obtain ⟨plain, ds, hgrouped, hdigits, -, -⟩ := h
  have hlast := List.getLast?_eq_some_getLast hgrouped.ne_nil
  obtain ⟨d, hd⟩ := hdigits.exists_digit
    (List.mem_of_mem_getLast? (hgrouped.getLast?_eq.symm.trans hlast))
  exact ⟨_, d, hlast, hd⟩

theorem signed?_minus (cs : List Char) :
    signed? ('-' :: cs) = (natural? cs).map fun m : Nat => -(m : Int) := by
  cases h : natural? cs <;> simp [signed?, h]

theorem signed?_plus (cs : List Char) :
    signed? ('+' :: cs) = (natural? cs).map fun m : Nat => (m : Int) := by
  cases h : natural? cs <;> simp [signed?, h]

theorem signed?_unsigned (hminus : cs.head? ≠ some '-') (hplus : cs.head? ≠ some '+') :
    signed? cs = (natural? cs).map fun m : Nat => (m : Int) := by
  unfold signed?
  split
  · exact absurd rfl hminus
  · exact absurd rfl hplus
  · cases natural? cs <;> rfl

/-- **Reading a text without blanks around it** finds the integer that it denotes. -/
theorem signed?_eq_some_iff : signed? cs = some n ↔ Denotes cs n := by
  constructor
  · intro h
    by_cases hminus : cs.head? = some '-'
    · obtain ⟨cs, rfl⟩ := List.head?_eq_some_iff.mp hminus
      rw [signed?_minus, Option.map_eq_some_iff] at h
      obtain ⟨m, hm, rfl⟩ := h
      exact .minus (natural?_eq_some_iff.mp hm)
    · by_cases hplus : cs.head? = some '+'
      · obtain ⟨cs, rfl⟩ := List.head?_eq_some_iff.mp hplus
        rw [signed?_plus, Option.map_eq_some_iff] at h
        obtain ⟨m, hm, rfl⟩ := h
        exact .plus (natural?_eq_some_iff.mp hm)
      · rw [signed?_unsigned hminus hplus, Option.map_eq_some_iff] at h
        obtain ⟨m, hm, rfl⟩ := h
        exact .unsigned (natural?_eq_some_iff.mp hm)
  · intro h
    cases h with
    | unsigned h =>
      -- The first character is a digit, so no sign.
      obtain ⟨c, rest, d, rfl, hd⟩ := h.exists_first
      have hsign (sign : Char) (hnone : Text.digit? sign = none) :
          (c :: rest).head? ≠ some sign := by
        intro heq
        rw [Option.some.inj heq, hnone] at hd
        cases hd
      rw [signed?_unsigned (hsign '-' (by decide)) (hsign '+' (by decide)),
        natural?_eq_some_iff.mpr h]
      rfl
    | plus h =>
      rw [signed?_plus, natural?_eq_some_iff.mpr h]
      rfl
    | minus h =>
      rw [signed?_minus, natural?_eq_some_iff.mpr h]
      rfl

theorem Writes.bare (h : Writes cs m) : Text.Bare Text.isBlank cs where
  first c hc := by
    obtain ⟨c', rest, d, rfl, hd⟩ := h.exists_first
    obtain rfl := Option.some.inj hc
    exact Text.isBlank_of_digit? hd
  last c hc := by
    obtain ⟨c', d, hlast, hd⟩ := h.exists_last
    obtain rfl := Option.some.inj (hlast.symm.trans hc)
    exact Text.isBlank_of_digit? hd

theorem Writes.bare_cons {sign : Char} (hsign : Text.isBlank sign = false) (h : Writes cs m) :
    Text.Bare Text.isBlank (sign :: cs) where
  first c hc := by
    obtain rfl := Option.some.inj hc
    exact hsign
  last c hc := by
    -- The digits come last, with a sign before them or not.
    obtain ⟨c', d, hlast, -⟩ := h.exists_last
    rw [List.getLast?_cons, hlast, Option.getD_some, ← hlast] at hc
    exact h.bare.last c hc

/-- A numeral neither begins nor ends with a blank. -/
theorem Denotes.bare (h : Denotes cs n) : Text.Bare Text.isBlank cs := by
  cases h with
  | unsigned h => exact h.bare
  | plus h => exact h.bare_cons (by decide)
  | minus h => exact h.bare_cons (by decide)

theorem Denotes.ne_nil (h : Denotes cs n) : cs ≠ [] := by
  cases h with
  | unsigned h =>
    obtain ⟨plain, ds, hgrouped, -⟩ := h
    exact hgrouped.ne_nil
  | plus | minus => exact List.cons_ne_nil _ _

/-- **An integer is read from a text** where a numeral for it has blanks around it, whichever
characters are blanks there. -/
theorem signed?_trimWhere_eq_some_iff {p : Char → Bool}
    (hp : ∀ c, p c = true → Text.isBlank c = true) :
    signed? (Text.trimWhere p cs) = some n ↔ ∃ core, Text.Surrounds p core cs ∧ Denotes core n := by
  rw [signed?_eq_some_iff]
  constructor
  · exact fun h => ⟨_, Text.surrounds_trimWhere p cs, h⟩
  · rintro ⟨core, hsurrounds, h⟩
    rwa [Text.trimWhere_eq_iff.mpr ⟨hsurrounds, h.bare.mono hp⟩]

/-! ### Information separators

They are blanks, but not around a numeral. -/

/-- An information separator of ASCII. -/
def isSeparator (c : Char) : Bool :=
  0x1c ≤ c.toNat && c.toNat ≤ 0x1f

/-- Among the blanks around a text there is an information separator. -/
def HasSeparatorAround (cs : List Char) : Prop :=
  ∃ before core after, cs = before ++ core ++ after ∧
    (∀ c ∈ before, Text.isBlank c = true) ∧ (∀ c ∈ after, Text.isBlank c = true) ∧
    ∃ c ∈ before ++ after, isSeparator c = true

theorem isMargin_iff {c : Char} :
    isMargin c = true ↔ Text.isBlank c = true ∧ isSeparator c = false := by
  rw [isMargin, isSeparator, Bool.and_eq_true, Bool.not_eq_true']

theorem isBlank_of_isMargin (c : Char) (h : isMargin c = true) : Text.isBlank c = true :=
  (isMargin_iff.mp h).1

/-- Trimming leaves nothing that would be ignored around a numeral. -/
theorem bare_trim (cs : List Char) : Text.Bare isMargin (Text.trim cs) :=
  (Text.bare_trimWhere Text.isBlank cs).mono isBlank_of_isMargin

theorem read?_trim (cs : List Char) : read? (Text.trim cs) = signed? (Text.trim cs) := by
  rw [read?, Text.trimWhere_of_bare (bare_trim cs)]

/-- A text is a numeral for an integer, with white space around it. -/
def StandsFor (cs : List Char) (n : Int) : Prop :=
  ∃ core, Text.Surrounds Text.isBlank core cs ∧ Denotes core n

theorem read?_trim_eq_some_iff : read? (Text.trim cs) = some n ↔ StandsFor cs n := by
  rw [read?_trim]
  exact signed?_trimWhere_eq_some_iff fun _ h => h

/-- Without separators around a text it does not matter whether it is trimmed before it is read. -/
theorem read?_trim_of_no_separator (h : ¬HasSeparatorAround cs) :
    read? (Text.trim cs) = read? cs := by
  obtain ⟨before, after, hcs, hbefore, hafter⟩ := Text.surrounds_trimWhere Text.isBlank cs
  have hmargin (c : Char) (hc : c ∈ before ++ after) : isMargin c = true := by
    refine isMargin_iff.mpr ⟨?_, ?_⟩
    · exact (List.mem_append.mp hc).elim (hbefore c) (hafter c)
    · rw [Bool.eq_false_iff]
      exact fun hseparator => h ⟨before, _, after, hcs, hbefore, hafter, c, hc, hseparator⟩
  have hsurrounds : Text.Surrounds isMargin (Text.trim cs) cs :=
    ⟨before, after, hcs, fun c hc => hmargin c (List.mem_append_left _ hc),
      fun c hc => hmargin c (List.mem_append_right _ hc)⟩
  rw [read?_trim, read?, Text.trimWhere_eq_iff.mpr ⟨hsurrounds, bare_trim cs⟩]

/-- With a separator around it a text is no numeral. -/
theorem read?_of_separator (h : HasSeparatorAround cs) : read? cs = none := by
  obtain ⟨before, core, after, hcs, hbefore, hafter, c, hc, hseparator⟩ := h
  by_contra hsome
  obtain ⟨n, hn⟩ := Option.ne_none_iff_exists'.mp hsome
  obtain ⟨numeral, hsurrounds, hdenotes⟩ :=
    (signed?_trimWhere_eq_some_iff isBlank_of_isMargin).mp hn
  -- What surrounds the numeral takes in all blanks, and no separator is passed over there.
  have hmargin := hsurrounds.mem_of_bare hdenotes.bare hdenotes.ne_nil isBlank_of_isMargin hcs
    hbefore hafter hc
  rw [(isMargin_iff.mp hmargin).2] at hseparator
  cases hseparator

/-- Bytes can be trimmed before they are read: among their blanks there are no separators. -/
theorem readBytes?_trim (bytes : List UInt8) :
    readBytes? (Text.trimWhere (fun b => Text.isAsciiBlank b.toNat) bytes) = readBytes? bytes := by
  have hcases : ∀ code < 128, isMargin (Char.ofNat code) = Text.isAsciiBlank code := by decide
  have hsurrounds := Text.surrounds_trimWhere (fun b : UInt8 => Text.isAsciiBlank b.toNat) bytes
  have hread (bytes : List UInt8) (hall : bytes.all (· < 128) = true) :
      readBytes? bytes = signed? ((Text.trimWhere (fun b => Text.isAsciiBlank b.toNat) bytes).map
        fun b => Char.ofNat b.toNat) := by
    rw [readBytes?, if_pos hall, read?, Text.trimWhere_map]
    congr 2
    refine Text.trimWhere_congr fun b hb => hcases b.toNat ?_
    exact of_decide_eq_true (List.all_eq_true.mp hall b hb)
  by_cases hall : bytes.all (· < 128) = true
  · have hcore := List.all_eq_true.mpr fun b hb =>
      List.all_eq_true.mp hall b (hsurrounds.mem_of_mem hb)
    rw [hread bytes hall, hread _ hcore, Text.trimWhere_trimWhere]
  · -- A byte that is no character of ASCII is no blank, so it stays.
    obtain ⟨b, hb, hlarge⟩ := List.all_eq_false.mp (Bool.not_eq_true _ ▸ hall)
    have hcore : ¬((Text.trimWhere (fun b => Text.isAsciiBlank b.toNat) bytes).all
        (· < 128) = true) := by
      rw [Bool.not_eq_true, List.all_eq_false]
      refine ⟨b, hsurrounds.mem_of_not hb ?_, hlarge⟩
      have hcode : ¬b.toNat < 128 := fun h => hlarge (decide_eq_true (UInt8.lt_iff_toNat_lt.mpr h))
      simp only [Text.isAsciiBlank, List.contains_iff_mem, Bool.eq_false_iff, ne_eq,
        List.mem_cons, List.not_mem_nil, or_false]
      omega
    rw [readBytes?, if_neg hcore, readBytes?, if_neg hall]

/-! ### Size -/

theorem Writes.lt (h : Writes cs m) : m < 10 ^ maxDigits := by
  obtain ⟨plain, ds, -, hdigits, hlength, rfl⟩ := h
  have hsmall : ∀ d ∈ ds.reverse, d < 10 := fun d hd =>
    hdigits.lt_ten (List.mem_reverse.mp hd)
  calc Nat.ofDigits 10 ds.reverse
    _ < 10 ^ ds.reverse.length := Nat.ofDigits_lt_base_pow_length (by decide) hsmall
    _ ≤ 10 ^ maxDigits :=
      Nat.pow_le_pow_right (by decide) (by rwa [List.length_reverse])

/-- An integer that a numeral denotes has not too many digits. -/
theorem Denotes.natAbs_lt (h : Denotes cs n) : n.natAbs < 10 ^ maxDigits := by
  cases h with
  | unsigned h => exact h.lt
  | plus h => exact h.lt
  | minus h =>
    rw [Int.natAbs_neg]
    exact h.lt

theorem natAbs_lt_of_read? (h : read? cs = some n) : n.natAbs < 10 ^ maxDigits := by
  obtain ⟨core, -, hdenotes⟩ := (signed?_trimWhere_eq_some_iff isBlank_of_isMargin).mp h
  exact hdenotes.natAbs_lt

theorem natAbs_lt_of_readBytes? {bytes : List UInt8} (h : readBytes? bytes = some n) :
    n.natAbs < 10 ^ maxDigits := by
  unfold readBytes? at h
  split_ifs at h
  exact natAbs_lt_of_read? h

theorem length_decimal_le_iff : (decimal m).length ≤ maxDigits ↔ m < 10 ^ maxDigits := by
  rw [decimal, ← String.length_toList, Nat.toList_repr,
    Nat.length_toDigits_le_iff (by decide) (by decide)]

/-- The least number of too many digits. -/
def tooLong : Int := ((10 ^ maxDigits : Nat) : Int)

theorem le_natAbs_tooLong : 10 ^ maxDigits ≤ tooLong.natAbs :=
  (Int.natAbs_natCast (10 ^ maxDigits)).ge

/-- **An integer written out in decimal is a numeral for itself**, also with underscores. -/
theorem writes_decimal (hm : m < 10 ^ maxDigits) (h : Grouped (decimal m).toList cs) :
    Writes cs m := by
  have htext : (decimal m).toList = Nat.toDigits 10 m := by rw [decimal, Nat.toList_repr]
  rw [htext] at h
  refine ⟨Nat.toDigits 10 m, (Nat.toDigits 10 m).map (·.toNat - 48), h, ?_, ?_, ?_⟩
  · rw [AreDigits, List.forall₂_map_right_iff, List.forall₂_same]
    exact fun c hc => Text.digit?_of_isDigit
      (Nat.isDigit_of_mem_toDigits (by decide) (by decide) hc)
  · rw [List.length_map, Nat.length_toDigits_le_iff (by decide) (by decide)]
    exact hm
  · rw [← value_eq_ofDigits, value, List.foldl_map]
    exact Nat.ofDigitChars_ten_toDigits.symm

end Numeral

end BoundedVars
