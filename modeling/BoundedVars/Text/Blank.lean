/-!
# Blanks

The white space of Unicode, with the four information separators of ASCII among it, and the two
operations that rest on it: `Text.trim` removes blanks from both ends, `Text.words` splits at
them.
-/

namespace BoundedVars.Text

/-- The code points that count as white space. -/
def blanks : List Nat :=
  [0x9, 0xa, 0xb, 0xc, 0xd, 0x1c, 0x1d, 0x1e, 0x1f, 0x20, 0x85, 0xa0, 0x1680, 0x2000, 0x2001,
   0x2002, 0x2003, 0x2004, 0x2005, 0x2006, 0x2007, 0x2008, 0x2009, 0x200a, 0x2028, 0x2029,
   0x202f, 0x205f, 0x3000]

/-- White space. -/
def isBlank (c : Char) : Bool :=
  blanks.contains c.toNat

/-- White space of ASCII proper, without the information separators. -/
def isAsciiBlank (code : Nat) : Bool :=
  [0x9, 0xa, 0xb, 0xc, 0xd, 0x20].contains code

/-- A list without the elements at its two ends that satisfy `p`. -/
def trimWhere {α : Type} (p : α → Bool) (xs : List α) : List α :=
  ((xs.dropWhile p).reverse.dropWhile p).reverse

/-- Characters without the blanks around them. -/
def trim (cs : List Char) : List Char :=
  trimWhere isBlank cs

/-- The next word is grown character by character and closed by a blank; `word` holds it
reversed. -/
def wordsFrom (word : List Char) : List Char → List (List Char)
  | [] => if word.isEmpty then [] else [word.reverse]
  | c :: rest =>
    if isBlank c then
      if word.isEmpty then wordsFrom [] rest else word.reverse :: wordsFrom [] rest
    else wordsFrom (c :: word) rest

/-- The stretches between blanks, none of them empty. -/
def words (cs : List Char) : List (List Char) :=
  wordsFrom [] cs

end BoundedVars.Text
