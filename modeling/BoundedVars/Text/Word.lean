import BoundedVars.Text.Digit
import BoundedVars.Text.Letter
import BoundedVars.Text.Mark
import BoundedVars.Text.Numeric

/-!
# Words and identifiers

A *word character* is a letter, a numeric character or the underscore.  An *identifier* is a
narrower notion: it begins with a letter, a letter of a numeral system or the underscore, and goes
on with these, combining marks, digits and connecting punctuation.  A few characters are placed in
or out of either class so that an identifier stays one under normalization (the properties
`XID_Start` and `XID_Continue` of Unicode 14.0).
-/

namespace BoundedVars.Text

/-- A letter, a numeric character or the underscore. -/
def isWord (c : Char) : Bool :=
  c = '_' || isLetter c || isNumeric c

/-- The ranges of letters that no identifier begins with, both ends included. -/
def innerLetterRanges : Array (Nat × Nat) := #[
   (0x37a, 0x37a), (0xe33, 0xe33), (0xeb3, 0xeb3), (0x2e2f, 0x2e2f), (0xfc5e, 0xfc63),
   (0xfdfa, 0xfdfb), (0xfe70, 0xfe70), (0xfe72, 0xfe72), (0xfe74, 0xfe74), (0xfe76, 0xfe76),
   (0xfe78, 0xfe78), (0xfe7a, 0xfe7a), (0xfe7c, 0xfe7c), (0xfe7e, 0xfe7e), (0xff9e, 0xff9f)]

/-- The ranges of characters other than letters that an identifier may begin with. -/
def otherStartRanges : Array (Nat × Nat) := #[
   (0x16ee, 0x16f0), (0x1885, 0x1886), (0x2118, 0x2118), (0x212e, 0x212e), (0x2160, 0x2182),
   (0x2185, 0x2188), (0x3007, 0x3007), (0x3021, 0x3029), (0x3038, 0x303a), (0xa6e6, 0xa6ef),
   (0x10140, 0x10174), (0x10341, 0x10341), (0x1034a, 0x1034a), (0x103d1, 0x103d5),
   (0x12400, 0x1246e)]

/-- The ranges of characters other than those, marks and digits that an identifier may hold. -/
def otherPartRanges : Array (Nat × Nat) := #[
   (0xb7, 0xb7), (0x387, 0x387), (0xe33, 0xe33), (0xeb3, 0xeb3), (0x1369, 0x1371),
   (0x19da, 0x19da), (0x203f, 0x2040), (0x2054, 0x2054), (0xfe33, 0xfe34), (0xfe4d, 0xfe4f),
   (0xff3f, 0xff3f), (0xff9e, 0xff9f)]

/-- An identifier may begin with the character. -/
def isIdentifierStart (c : Char) : Bool :=
  c = '_' || (isLetter c && !isInRanges innerLetterRanges c) || isInRanges otherStartRanges c

/-- An identifier may go on with the character. -/
def isIdentifierPart (c : Char) : Bool :=
  isIdentifierStart c || isMark c || (digit? c).isSome || isInRanges otherPartRanges c

/-- The first character that keeps a text from being an identifier. -/
def identifierFault? : List Char → Option Char
  | [] => none
  | first :: rest =>
    if isIdentifierStart first then rest.find? fun c => !isIdentifierPart c else some first

end BoundedVars.Text
