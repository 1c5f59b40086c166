import BoundedVars.Failure

/-!
# Bounds

A capacity limit is meant to be an integer, but any number will do: lengths are compared with it as
it stands, a truth value counting as zero or one, and a value that is no number bounding nothing.
A `Bound` is such a limit together with its spelling in messages.  An integer of too many digits has
none, and asking for it is a failure.
-/

namespace BoundedVars

/-- An integer written out, which cannot have more digits than a numeral. -/
def writtenInteger (n : Int) : Except Failure String :=
  if Numeral.maxDigits < (decimal n.natAbs).length then .error .integerTooLong
  else .ok (signedDecimal n)

/-- A limit that lengths can be compared with. -/
inductive Bound where
  | int (n : Int)
  | bool (b : Bool)
  | float (x : Double)
  deriving Repr, DecidableEq

namespace Bound

/-- The order of a length and a bound, none when the bound is not a number. -/
def compareLength? (length : Nat) : Bound → Option Ordering
  | int n => some (compare (length : Int) n)
  | bool b => some (compare length (if b then 1 else 0))
  | float x => x.compareInt? length

/-- A length is over the bound. -/
def exceededBy (bound : Bound) (length : Nat) : Bool :=
  bound.compareLength? length == some .gt

/-- A number of entries leaves no room below the bound. -/
def reachedBy (bound : Bound) (count : Nat) : Bool :=
  match bound.compareLength? count with
  | some .gt | some .eq => true
  | _ => false

/-- The spelling of a truth value. -/
def boolText (b : Bool) : String :=
  if b then "True" else "False"

/-- The spelling of a bound. -/
def text : Bound → Except Failure String
  | int n => writtenInteger n
  | bool b => .ok (boolText b)
  | float x => .ok x.text

/-- A length is over an integer bound when it is greater. -/
@[simp] theorem exceededBy_int (n : Int) (length : Nat) :
    (int n).exceededBy length = decide (n < length) := by
  simp only [exceededBy, compareLength?]
  rcases Int.lt_trichotomy (length : Int) n with h | h | h
  · simp [Int.compare_eq_lt.2 h, Int.not_lt.2 (Int.le_of_lt h)]
  · simp [h]
  · simp [Int.compare_eq_gt.2 h, h]

/-- An integer bound is reached when the count is not smaller. -/
@[simp] theorem reachedBy_int (n : Int) (count : Nat) :
    (int n).reachedBy count = decide (n ≤ count) := by
  simp only [reachedBy, compareLength?]
  rcases Int.lt_trichotomy (count : Int) n with h | h | h
  · simp [Int.compare_eq_lt.2 h, Int.not_le.2 h]
  · simp [h]
  · simp [Int.compare_eq_gt.2 h, Int.le_of_lt h]

end Bound

/-- The bound that a value is, if it is a number. -/
def Value.bound? : Value → Option Bound
  | .int n => some (.int n)
  | .bool b => some (.bool b)
  | .float _ x => some (.float x)
  | _ => Option.none

end BoundedVars
