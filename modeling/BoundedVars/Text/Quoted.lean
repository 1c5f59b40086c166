import BoundedVars.Text.Printable

/-!
# Quoted text and bytes

`Text.quoted` writes a text between single quotes, or between double quotes when it holds a single
one and no double one.  The quote, the backslash and everything that is not printable are written
as escapes, the shortest that fits the code point.  `Text.quotedBytes` does the same for bytes,
behind a `b` and with only ASCII printed as it is.
-/

namespace BoundedVars.Text

/-- The quote that encloses a text with these characters. -/
def quoteFor (cs : List Char) : Char :=
  if cs.contains '\x27' && !cs.contains '\x22' then '\x22' else '\x27'

/-- A number in `width` lower-case hexadecimal digits. -/
def hex (width : Nat) (n : Nat) : List Char :=
  let digits := Nat.toDigits 16 n
  List.replicate (width - digits.length) '0' ++ digits

/-- The escape of a code point: two, four or eight hexadecimal digits behind `x`, `u` or `U`. -/
def hexEscape (code : Nat) : List Char :=
  if code < 0x100 then '\x5c' :: 'x' :: hex 2 code
  else if code < 0x10000 then '\x5c' :: 'u' :: hex 4 code
  else '\x5c' :: 'U' :: hex 8 code

/-- One character inside quotes; `printable` says which are shown as they are. -/
def quoteChar (quote : Char) (printable : Char → Bool) (c : Char) : List Char :=
  if c = quote ∨ c = '\x5c' then ['\x5c', c]
  else if c = '\t' then ['\x5c', 't']
  else if c = '\n' then ['\x5c', 'n']
  else if c = '\r' then ['\x5c', 'r']
  else if printable c then [c]
  else hexEscape c.toNat

/-- Characters between quotes. -/
def quotedChars (printable : Char → Bool) (cs : List Char) : List Char :=
  let quote := quoteFor cs
  quote :: (cs.flatMap (quoteChar quote printable) ++ [quote])

/-- A text between quotes. -/
def quoted (s : String) : String :=
  String.ofList (quotedChars isPrintable s.toList)

/-- A sequence of bytes between quotes. -/
def quotedBytes (bytes : List UInt8) : String :=
  let cs := bytes.map fun b => Char.ofNat b.toNat
  String.ofList ('b' :: quotedChars (fun c => 0x20 ≤ c.toNat && c.toNat < 0x7f) cs)

end BoundedVars.Text
