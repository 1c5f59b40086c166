import BoundedVars.Number.Notation
import BoundedVars.Text.Blank
import BoundedVars.Text.Digit

/-!
# Integer numerals

`Numeral.read?` reads an integer from text: blanks around it, one sign, decimal digits of any
script, single underscores between digits, and at most `Numeral.maxDigits` digits, leading zeros
included.  The information separators of ASCII are white space elsewhere, but not here.
-/

namespace BoundedVars.Numeral

/-- The most digits a numeral may have. -/
def maxDigits : Nat := 4300

/-- What can be wrong with digits that should make a numeral. -/
inductive Fault where
  | noDigits
  | tooManyDigits (count : Nat)
  deriving Repr, DecidableEq

/-- The wording of a fault. -/
def Fault.message : Fault → String
  | noDigits => "invalid literal for int() with base 10: ''"
  | tooManyDigits count =>
    "Exceeds the limit (" ++ decimal maxDigits
      ++ " digits) for integer string conversion: value has " ++ decimal count
      ++ " digits; use sys.set_int_max_str_digits() to increase the limit"

/-- The white space allowed around a numeral: all of it but the information separators. -/
def isMargin (c : Char) : Bool :=
  Text.isBlank c && !(0x1c ≤ c.toNat && c.toNat ≤ 0x1f)

/-- The values of the digits of a numeral without sign: one digit, then digits, each with or
without an underscore before it. -/
def digits? : List Char → Option (List Nat)
  | [] => none
  | [c] => (Text.digit? c).map ([·])
  | c :: '_' :: rest => do return (← Text.digit? c) :: (← digits? rest)
  | c :: rest => do return (← Text.digit? c) :: (← digits? rest)

/-- The number written with the given digits, the most significant first. -/
def value (digits : List Nat) : Nat :=
  digits.foldl (fun n d => 10 * n + d) 0

/-- The number that decimal digits of any script write, when there are digits and not too many;
other characters count as zero. -/
def ofDigits (cs : List Char) : Except Fault Nat :=
  if cs.isEmpty then .error .noDigits
  else if maxDigits < cs.length then .error (.tooManyDigits cs.length)
  else .ok (value (cs.map fun c => (Text.digit? c).getD 0))

/-- The number written with the given characters, which are not too many. -/
def natural? (cs : List Char) : Option Nat := do
  let digits ← digits? cs
  if digits.length ≤ maxDigits then some (value digits) else none

/-- A numeral with an optional sign. -/
def signed? : List Char → Option Int
  | '-' :: cs => (natural? cs).map fun n => -(n : Int)
  | '+' :: cs => (natural? cs).map fun n => (n : Int)
  | cs => (natural? cs).map fun n => (n : Int)

/-- The integer that a text denotes. -/
def read? (cs : List Char) : Option Int :=
  signed? (Text.trimWhere isMargin cs)

/-- The integer that a sequence of bytes denotes, which are characters of ASCII. -/
def readBytes? (bytes : List UInt8) : Option Int :=
  if bytes.all (· < 128) then read? (bytes.map fun b => Char.ofNat b.toNat) else none

end BoundedVars.Numeral
