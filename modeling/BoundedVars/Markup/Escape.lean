import BoundedVars.Markup.Tag

/-!
# Escaping

`Markup.escape` turns a text into one that shows as that text: every tag in it gets its backslashes
doubled and one more, so that their number is odd.  A single backslash at the end is doubled, too,
because it would otherwise escape whatever is put behind it.
-/

namespace BoundedVars.Markup

/-- A piece with its tag made plain. -/
def Piece.escaped : Piece → List Char
  | plain c => [c]
  | tag slashes content => (Piece.tag (2 * slashes + 1) content).source

/-- The last character is a backslash and the one before it is not. -/
def endsInLoneSlash (cs : List Char) : Bool :=
  match cs.reverse with
  | '\x5c' :: '\x5c' :: _ => false
  | '\x5c' :: _ => true
  | _ => false

/-- The text that shows as the given characters. -/
def escapeChars (cs : List Char) : List Char :=
  let escaped := (scan cs).flatMap Piece.escaped
  if endsInLoneSlash escaped then escaped ++ ['\x5c'] else escaped

/-- The text that shows as the given one. -/
def escape (s : String) : String :=
  String.ofList (escapeChars s.toList)

end BoundedVars.Markup
