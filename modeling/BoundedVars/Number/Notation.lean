import BoundedVars.Number.Shortest

/-!
# The written form of doubles and integers

`Double.text` writes the shortest decimal that reads back, positionally while the decimal point
stands between the fourth place before the digits and the sixteenth place behind their start, with
an exponent of at least two digits otherwise; a whole number keeps a final `.0`.  `Double.read?`
reads that form.
-/

namespace BoundedVars

/-- The decimal text of a natural number. -/
def decimal (n : Nat) : String :=
  Nat.repr n

/-- The decimal text of an integer. -/
def signedDecimal (n : Int) : String :=
  if n < 0 then "-" ++ decimal n.natAbs else decimal n.natAbs

namespace Double

/-- Decimal digits with the point behind the first `point` of them. -/
def positional (digits : List Char) (point : Int) : List Char :=
  if point ≤ 0 then '0' :: '.' :: (List.replicate (-point).toNat '0' ++ digits)
  else
    let places := point.toNat
    if digits.length ≤ places then
      digits ++ List.replicate (places - digits.length) '0' ++ ['.', '0']
    else digits.take places ++ '.' :: digits.drop places

/-- Decimal digits with the point behind the first of them, and the exponent that makes up for
it. -/
def withExponent (digits : List Char) (exponent : Int) : List Char :=
  let power := (decimal exponent.natAbs).toList
  let padded := if power.length < 2 then '0' :: power else power
  let mantissa := match digits with
    | first :: second :: rest => first :: '.' :: second :: rest
    | short => short
  mantissa ++ 'e' :: (if exponent < 0 then '-' else '+') :: padded

/-- A double in its shortest form. -/
def text : Double → String
  | nan => "nan"
  | infinite negative => if negative then "-inf" else "inf"
  | finite negative significand exponent =>
    let unsigned :=
      if significand = 0 then ['0', '.', '0']
      else
        let (number, power) := shortest significand exponent
        let digits := (decimal number).toList
        let point := power + digits.length
        if -4 < point ∧ point ≤ 16 then positional digits point else withExponent digits (point - 1)
    String.ofList (if negative then '-' :: unsigned else unsigned)

/-- The value of a string of digits of ASCII. -/
def asciiNumber? (cs : List Char) : Option Nat :=
  if cs.isEmpty ∨ ¬cs.all Char.isDigit then none
  else some (cs.foldl (fun n c => 10 * n + (c.toNat - '0'.toNat)) 0)

/-- The exponent of a written double, a sign and digits. -/
def exponent? : List Char → Option Int
  | '-' :: cs => (asciiNumber? cs).map fun n => -(n : Int)
  | '+' :: cs => (asciiNumber? cs).map fun n => (n : Int)
  | cs => (asciiNumber? cs).map fun n => (n : Int)

/-- An unsigned written double: digits, an optional fraction, an optional exponent. -/
def readUnsigned? (negative : Bool) (cs : List Char) : Option Double := do
  let mantissa := cs.takeWhile (· != 'e')
  let power ← match cs.dropWhile (· != 'e') with
    | [] => some 0
    | _ :: rest => exponent? rest
  let whole := mantissa.takeWhile (· != '.')
  let fraction := (mantissa.dropWhile (· != '.')).drop 1
  let digits ← asciiNumber? (whole ++ fraction)
  return ofDecimal negative digits (power - fraction.length)

/-- Reads the written form of a double. -/
def read? (s : String) : Option Double :=
  match s.toList with
  | ['n', 'a', 'n'] => some nan
  | ['i', 'n', 'f'] => some (infinite false)
  | ['-', 'i', 'n', 'f'] => some (infinite true)
  | '-' :: cs => readUnsigned? true cs
  | cs => readUnsigned? false cs

end Double

end BoundedVars
