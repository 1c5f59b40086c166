import BoundedVars.Proofs.Environment
import Mathlib.Data.Rat.Floor
import Mathlib.Tactic.Linarith
import Mathlib.Tactic.NormNum
import Mathlib.Tactic.Positivity

/-!
# Numbers as limits

A number that is given as a limit loses its fraction: a number `q` is the limit `⌊q⌋` if that is
positive (`Heap.coerceLimit_of_counts`).  So a number that is no integer is not refused, unless it
is less than one (`Heap.fractions_are_dropped`).
-/

namespace BoundedVars

namespace Double

variable {negative : Bool} {significand : Nat} {exponent : Int}

/-- What a finite double counts. -/
def toRat (negative : Bool) (significand : Nat) (exponent : Int) : ℚ :=
  signed negative significand * 2 ^ exponent

/-- The significands and exponents that fit into 64 bits. -/
structure InFormat (significand : Nat) (exponent : Int) : Prop where
  significand_lt : significand < 2 ^ 53
  minExponent_le : minExponent ≤ exponent
  le_maxExponent : exponent ≤ maxExponent

/-! ### Truncation -/

/-- A positive double as a quotient. -/
theorem toRat_eq_div (significand : Nat) (exponent : Int) :
    toRat false significand exponent =
      ((significand * power 2 exponent : Nat) : ℚ) / (power 2 (-exponent) : Nat) := by
  have hsigned : signed false significand = significand := rfl
  rw [toRat, hsigned]
  -- One of the two powers is one, according to the sign of the exponent.
  obtain ⟨k, rfl | rfl⟩ := Int.eq_nat_or_neg exponent
  · have hpower : power 2 (k : Int) = 2 ^ k := by simp [power]
    have hone : power 2 (-(k : Int)) = 1 := by simp [power]
    rw [hpower, hone]
    push_cast
    rw [zpow_natCast, div_one]
  · have hone : power 2 (-(k : Int)) = 1 := by simp [power]
    have hpower : power 2 (- -(k : Int)) = 2 ^ k := by simp [power]
    rw [hpower, hone]
    push_cast
    rw [zpow_neg, zpow_natCast, mul_one, div_eq_mul_inv]

theorem toRat_true (significand : Nat) (exponent : Int) :
    toRat true significand exponent = -toRat false significand exponent := by
  simp [toRat, signed]

theorem truncate_true (significand : Nat) (exponent : Int) :
    truncate true significand exponent = -truncate false significand exponent := rfl

theorem truncate_false (significand : Nat) (exponent : Int) :
    truncate false significand exponent = ⌊toRat false significand exponent⌋ := by
  rw [toRat_eq_div, Rat.floor_natCast_div_natCast]
  rfl

theorem toRat_false_nonneg (significand : Nat) (exponent : Int) :
    0 ≤ toRat false significand exponent := by
  rw [toRat_eq_div]
  positivity

/-- What remains of a double is positive if the double is one or more. -/
theorem truncate_pos_iff :
    0 < truncate negative significand exponent ↔ 1 ≤ toRat negative significand exponent := by
  have hfloor : 0 < ⌊toRat false significand exponent⌋ ↔ 1 ≤ toRat false significand exponent :=
    Int.floor_pos
  cases negative with
  | false => rwa [truncate_false]
  | true =>
    have hnonneg := toRat_false_nonneg significand exponent
    have hfloor_nonneg : 0 ≤ ⌊toRat false significand exponent⌋ := Int.floor_nonneg.mpr hnonneg
    -- Neither side holds of a number with a minus.
    rw [truncate_true, toRat_true, truncate_false]
    constructor
    · intro hpos
      omega
    · intro hone
      linarith

/-- What remains of a double that is one or more is the greatest integer that is not greater. -/
theorem truncate_eq_floor (hone : 1 ≤ toRat negative significand exponent) :
    truncate negative significand exponent = ⌊toRat negative significand exponent⌋ := by
  cases negative with
  | false => exact truncate_false significand exponent
  | true =>
    have hnonneg := toRat_false_nonneg significand exponent
    rw [toRat_true] at hone
    linarith

theorem natAbs_signed (negative : Bool) (k : Nat) : (signed negative k).natAbs = k := by
  cases negative with
  | false => exact Int.natAbs_natCast k
  | true => exact (Int.natAbs_neg k).trans (Int.natAbs_natCast k)

/-- What remains of a finite double has not too many digits. -/
theorem InFormat.natAbs_truncate_lt (hformat : InFormat significand exponent) :
    (truncate negative significand exponent).natAbs < 10 ^ Numeral.maxDigits := by
  have hpower : power 2 exponent ≤ 2 ^ maxExponent.toNat := by
    have hexponent := hformat.le_maxExponent
    exact Nat.pow_le_pow_right (by decide) (by omega)
  -- For any exponent: powers of this size are not to be computed.
  have hdigits (k : Nat) : significand * 2 ^ k < 10 ^ (53 + k) :=
    calc significand * 2 ^ k
      _ < 2 ^ 53 * 2 ^ k :=
        Nat.mul_lt_mul_of_pos_right hformat.significand_lt (Nat.two_pow_pos k)
      _ = 2 ^ (53 + k) := (Nat.pow_add 2 53 k).symm
      _ ≤ 10 ^ (53 + k) := Nat.pow_le_pow_left (by decide) _
  have hmaxDigits : 53 + maxExponent.toNat ≤ Numeral.maxDigits := by decide
  rw [truncate, natAbs_signed]
  calc significand * power 2 exponent / power 2 (-exponent)
    _ ≤ significand * power 2 exponent := Nat.div_le_self _ _
    _ ≤ significand * 2 ^ maxExponent.toNat := Nat.mul_le_mul_left _ hpower
    _ < 10 ^ (53 + maxExponent.toNat) := hdigits maxExponent.toNat
    _ ≤ 10 ^ Numeral.maxDigits := Nat.pow_le_pow_right (by decide) hmaxDigits

end Double

/-- A value is an integer or a finite double, and counts `q`. -/
inductive Value.Counts : Value → ℚ → Prop
  | int (n : Int) : Counts (.int n) n
  | float (serial : Nat) (negative : Bool) {significand : Nat} {exponent : Int}
      (hformat : Double.InFormat significand exponent) :
      Counts (.float serial (.finite negative significand exponent))
        (Double.toRat negative significand exponent)

namespace Heap

open Except

variable {h : Heap} {v conf : Value} {limit : Limit} {n : Int} {q : ℚ}

/-! ### One limit -/

/-- A number that is no integer is a double, and what remains of it can be written out. -/
theorem natAbs_lt_of_counts (hv : v.Counts q) (hq : ¬∃ n : Int, q = n)
    (hn : integer? v = .ok (some n)) : n.natAbs < 10 ^ Numeral.maxDigits := by
  cases hv with
  | int m => exact absurd ⟨m, rfl⟩ hq
  | float serial negative hformat =>
    obtain rfl := Option.some.inj (Except.ok.inj hn)
    exact hformat.natAbs_truncate_lt

/-- A number denotes a positive integer if it is one or more, and then it is that integer with a
fraction. -/
theorem exists_integer_of_counts (hv : v.Counts q) :
    ∃ n, integer? v = .ok (some n) ∧ (0 < n ↔ 1 ≤ q) ∧ (1 ≤ q → n = ⌊q⌋) := by
  cases hv with
  | int m =>
    refine ⟨m, rfl, ?_, fun _ => (Int.floor_intCast m).symm⟩
    exact_mod_cast Iff.rfl
  | float serial negative hformat =>
    exact ⟨_, rfl, Double.truncate_pos_iff, Double.truncate_eq_floor⟩

/-- **A number is read as a limit without its fraction**, where an integer of one or more is
left. -/
theorem coerceLimit_of_counts (hv : v.Counts q) :
    h.coerceLimit limit v = .ok n ↔ 1 ≤ q ∧ n = ⌊q⌋ := by
  obtain ⟨m, hm, hpos, hfloor⟩ := exists_integer_of_counts hv
  rw [coerceLimit_eq_ok_iff, hm]
  constructor
  · rintro ⟨hsome, hn⟩
    obtain rfl := Option.some.inj (Except.ok.inj hsome)
    have hone := hpos.mp hn
    exact ⟨hone, hfloor hone⟩
  · rintro ⟨hone, rfl⟩
    rw [← hfloor hone]
    exact ⟨rfl, hpos.mpr hone⟩

/-- A number less than one that is no integer makes for a complaint. -/
theorem coerceLimit_complains_of_counts (hv : v.Counts q) (hq : ¬∃ n : Int, q = n) (hone : q < 1) :
    Complains (h.coerceLimit limit v) := by
  obtain ⟨m, hm, hpos, -⟩ := exists_integer_of_counts hv
  -- Below one nothing positive is left of the number.
  have hnonpos : m ≤ 0 := by
    by_contra hlt
    exact absurd (hpos.mp (by omega)) (not_le.mpr hone)
  rw [coerceLimit_of_not_positive hm hnonpos,
    writtenInteger_of_natAbs_lt (natAbs_lt_of_counts hv hq hm)]
  exact ⟨_, rfl, rfl⟩

/-! ### All limits -/

/-- **Fractions are dropped.**  Where a configuration gives a number `q` for a limit, the limit is
`⌊q⌋` whenever the limits can be read: the number itself exactly if that is an integer.  A number
that is no integer is complained about, in its turn, if it is less than one, and only then. -/
theorem fractions_are_dropped (hvalue : h.setting conf (.limit limit) = .ok v)
    (hv : v.Counts q) :
    (∀ limits, h.configuredLimits conf = .ok limits →
      1 ≤ q ∧ limits.get limit = ⌊q⌋ ∧ ((limits.get limit : ℚ) = q ↔ ∃ n : Int, q = n)) ∧
    ((¬∃ n : Int, q = n) →
      (Complains (h.configuredLimit conf limit) ↔ q < 1) ∧
      ∀ before after, Limit.all = before ++ limit :: after →
        (∀ earlier ∈ before, ∃ n, h.configuredLimit conf earlier = .ok n) →
        q < 1 → Complains (h.configuredLimits conf)) := by
  have hread : h.configuredLimit conf limit = h.coerceLimit limit v :=
    configuredLimit_of_setting hvalue
  refine ⟨fun limits hok => ?_, fun hq => ⟨⟨?_, ?_⟩, ?_⟩⟩
  · have hlimit := configuredLimit_eq_ok hok limit
    rw [hread, coerceLimit_of_counts hv] at hlimit
    obtain ⟨hone, hfloor⟩ := hlimit
    refine ⟨hone, hfloor, ?_, ?_⟩
    · exact fun heq => ⟨limits.get limit, heq.symm⟩
    · rintro ⟨n, rfl⟩
      rw [hfloor, Int.floor_intCast]
  · -- From one on the number is read, so there is nothing to complain about.
    rintro ⟨failure, hfails, -⟩
    by_contra hone
    rw [hread, (coerceLimit_of_counts hv).mpr ⟨not_lt.mp hone, rfl⟩] at hfails
    cases hfails
  · rw [hread]
    exact coerceLimit_complains_of_counts hv hq
  · intro before after hall hbefore hone
    have hcomplains : Complains (h.configuredLimit conf limit) := by
      rw [hread]
      exact coerceLimit_complains_of_counts hv hq hone
    obtain ⟨failure, hfails, hcategory⟩ := hcomplains
    exact ⟨failure, configuredLimits_eq_error_iff.mpr ⟨before, limit, after, hall, hbefore, hfails⟩,
      hcategory⟩

/-- One and a half. -/
def oneAndAHalf : Value :=
  .float 1 (.finite false (3 * 2 ^ 51) (-52))

theorem counts_oneAndAHalf : oneAndAHalf.Counts (3 / 2) := by
  have hformat : Double.InFormat (3 * 2 ^ 51) (-52) := ⟨by decide, by decide, by decide⟩
  have hcount : Double.toRat false (3 * 2 ^ 51) (-52) = 3 / 2 := by
    norm_num [Double.toRat, Double.signed]
  exact hcount ▸ Value.Counts.float 1 false hformat

/-- One half. -/
def oneHalf : Value :=
  .float 1 (.finite false (2 ^ 52) (-53))

theorem counts_oneHalf : oneHalf.Counts (1 / 2) := by
  have hformat : Double.InFormat (2 ^ 52) (-53) := ⟨by decide, by decide, by decide⟩
  have hcount : Double.toRat false (2 ^ 52) (-53) = 1 / 2 := by
    norm_num [Double.toRat, Double.signed]
  exact hcount ▸ Value.Counts.float 1 false hformat

/-- One and a half is not complained about, but taken for one; one half is. -/
theorem one_and_a_half_taken_for_one :
    (∃ limits, Heap.empty.fromConfiguration .maxGlobalVars oneAndAHalf = .ok limits ∧
      limits.get .maxGlobalVars = 1 ∧ ¬∃ n : Int, (3 / 2 : ℚ) = n) ∧
    Complains (Heap.empty.fromConfiguration .maxGlobalVars oneHalf) := by
  constructor
  · have hinteger : integer? oneAndAHalf = .ok (some 1) := congrArg Except.ok (by decide)
    have hread : ∃ limits, Heap.empty.fromConfiguration .maxGlobalVars oneAndAHalf = .ok limits ∧
        limits.get .maxGlobalVars = 1 :=
      fromConfiguration_eq_ok_iff.mpr ⟨hinteger, Int.one_pos⟩
    obtain ⟨limits, hok, hone⟩ := hread
    have hvalue := setting_solely Heap.empty .maxGlobalVars .maxGlobalVars oneAndAHalf
    obtain ⟨-, -, hexact⟩ := (fractions_are_dropped hvalue counts_oneAndAHalf).1 limits hok
    refine ⟨limits, hok, hone, ?_⟩
    rw [← hexact, hone]
    norm_num
  · have hvalue := setting_solely Heap.empty .maxGlobalVars .maxGlobalVars oneHalf
    have hfraction : ¬∃ n : Int, (1 / 2 : ℚ) = n := by
      rintro ⟨n, hn⟩
      -- Twice one half is one, which is odd.
      have htwice : (1 : ℚ) = (2 * n : Int) := by
        push_cast
        linarith
      have hodd : (1 : Int) = 2 * n := by exact_mod_cast htwice
      omega
    obtain ⟨-, hcomplains⟩ := (fractions_are_dropped hvalue counts_oneHalf).2 hfraction
    exact hcomplains [] _ rfl (List.forall_mem_nil _) (by norm_num)

end Heap

end BoundedVars
