import BoundedVars.Markup.Literal.Tree
import BoundedVars.Number.Numeral

/-!
# Constants that are numbers

`Constant.ofNumeral` gives the constant that a number denotes, which has been cut by the rules of
its notation.  A decimal integer must not have too many digits; the digits of other radices are
not counted.
-/

namespace BoundedVars.Markup.Literal.Constant

/-- The value of a digit of any radix up to sixteen. -/
def digitValue (c : Char) : Nat :=
  if c.isDigit then c.toNat - '0'.toNat else c.toLower.toNat - 'a'.toNat + 10

/-- The number that digits write in a radix. -/
def ofDigits (radix : Nat) (digits : List Char) : Nat :=
  digits.foldl (fun n c => radix * n + digitValue c) 0

/-- The constant that a number denotes. -/
def ofNumeral (cs : List Char) : Except Numeral.Fault Constant :=
  let digits := cs.filter (· != '_')
  let mark := (digits.drop 1).head?.map Char.toLower
  if digits.head? == some '0' && mark == some 'x' then .ok (integer 16 (digits.drop 2))
  else if digits.head? == some '0' && mark == some 'o' then .ok (integer 8 (digits.drop 2))
  else if digits.head? == some '0' && mark == some 'b' then .ok (integer 2 (digits.drop 2))
  else if digits.getLast?.any fun c => c = 'j' || c = 'J' then .ok imaginary
  else if digits.any fun c => ['.', 'e', 'E'].contains c then .ok fraction
  else if digits.head? == some '0' then .ok (integer 10 [])
  else if Numeral.maxDigits < digits.length then .error (.tooManyDigits digits.length)
  else .ok (integer 10 digits)

/-- The complaint about the digits of a number. -/
def complaintOf (fault : Numeral.Fault) : String :=
  fault.message
    ++ " - Consider hexadecimal for huge integer literals to avoid decimal conversion limits."

end BoundedVars.Markup.Literal.Constant
