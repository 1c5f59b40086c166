/-!
# Double-precision numbers, exactly

A `Double` is a value of the 64-bit binary format, kept as sign, significand and exponent, so that
comparison, truncation and printing are exact arithmetic on integers.  `Double.ofDecimal` rounds a
decimal fraction to the nearest double, a half to the even neighbour.

The value that is no number has no place in the order of the others; compared with any of them, or
with itself, it answers nothing.
-/

namespace BoundedVars

/-- A double: `± significand · 2 ^ exponent`, an infinity, or the value that is no number. -/
inductive Double where
  | finite (negative : Bool) (significand : Nat) (exponent : Int)
  | infinite (negative : Bool)
  | nan
  deriving Repr, DecidableEq

namespace Double

/-- The least exponent of a double; the significands below `2 ^ 52` occur with this one only. -/
def minExponent : Int := -1074

/-- The greatest exponent of a double. -/
def maxExponent : Int := 971

/-- A power with an integer exponent; one, when the exponent is negative. -/
def power (base : Nat) (exponent : Int) : Nat :=
  Nat.pow base exponent.toNat

/-- The quotient of two naturals, to the nearest, a half to the even one. -/
def roundedQuotient (num den : Nat) : Nat :=
  let quotient := num / den
  let twice := 2 * (num % den)
  if twice < den then quotient
  else if den < twice then quotient + 1
  else quotient + quotient % 2

/-- `num / den · 2 ^ (-exponent)` as a quotient of naturals. -/
def scaled (num den : Nat) (exponent : Int) : Nat × Nat :=
  (num * power 2 (-exponent), den * power 2 exponent)

/-- The double nearest to `num / den`, for `den` positive. -/
def ofRatio (negative : Bool) (num den : Nat) : Double :=
  if num = 0 then finite negative 0 minExponent
  else
    let low := max ((num.log2 : Int) - den.log2 - 53) minExponent
    let first := scaled num den low
    let exponent := if first.1 / first.2 < power 2 53 then low else low + 1
    let ratio := scaled num den exponent
    let significand := roundedQuotient ratio.1 ratio.2
    let carried :=
      if significand = power 2 53 then (power 2 52, exponent + 1) else (significand, exponent)
    if maxExponent < carried.2 then infinite negative else finite negative carried.1 carried.2

/-- The double nearest to `digits · 10 ^ exponent`.  Exponents far outside the range of the format
are settled without computing the power. -/
def ofDecimal (negative : Bool) (digits : Nat) (exponent : Int) : Double :=
  if digits = 0 then finite negative 0 minExponent
  else
    let magnitude := exponent + Nat.log2 digits
    if 5000 < magnitude then infinite negative
    else if magnitude < -5000 - 4 * Nat.log2 digits then finite negative 0 minExponent
    else ofRatio negative (digits * power 10 exponent) (power 10 (-exponent))

/-- The signed integer `significand` of a finite double. -/
def signed (negative : Bool) (significand : Nat) : Int :=
  if negative then -(significand : Int) else significand

/-- The order of `a · 2 ^ p` and `b · 2 ^ q`. -/
def compareScaled (a : Int) (p : Int) (b : Int) (q : Int) : Ordering :=
  let least := min p q
  compare (a * power 2 (p - least)) (b * power 2 (q - least))

/-- The order of two doubles as numbers, none when one is not a number. -/
def compare? : Double → Double → Option Ordering
  | nan, _ | _, nan => none
  | infinite m, infinite n => some (compare (!m) (!n))
  | infinite m, finite .. => some (if m then .lt else .gt)
  | finite .., infinite n => some (if n then .gt else .lt)
  | finite m a p, finite n b q => some (compareScaled (signed m a) p (signed n b) q)

/-- The order of an integer and a double, none when the double is not a number. -/
def compareInt? (n : Int) : Double → Option Ordering
  | nan => none
  | infinite m => some (if m then .gt else .lt)
  | finite m a p => some (compareScaled n 0 (signed m a) p)

/-- A zero of either sign. -/
def isZero : Double → Bool
  | finite _ a _ => a == 0
  | _ => false

/-- The integer that remains when the fraction of a finite double is dropped. -/
def truncate (negative : Bool) (significand : Nat) (exponent : Int) : Int :=
  signed negative (significand * power 2 exponent / power 2 (-exponent))

end Double

end BoundedVars
