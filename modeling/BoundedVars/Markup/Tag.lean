/-!
# Tags in a text

A *tag* is a bracketed stretch: `[`, then a small letter of ASCII, `#`, `/` or `@`, then anything
but another `[` up to the next `]`.  A bracket that starts no tag is text.  The backslashes right
before a tag belong to it: an odd number of them makes it plain text, an even number leaves it a
tag.

`Markup.scan` cuts a text into pieces, plain characters and tags with their backslashes; nothing
is lost (`Piece.source`).
-/

namespace BoundedVars.Markup

/-- A piece of a text: a plain character, or a tag with the number of backslashes before it and
what stands between its brackets. -/
inductive Piece where
  | plain (c : Char)
  | tag (slashes : Nat) (content : List Char)
  deriving Repr, DecidableEq

/-- The characters that a piece stands for. -/
def Piece.source : Piece → List Char
  | plain c => [c]
  | tag slashes content => List.replicate slashes '\x5c' ++ '[' :: (content ++ [']'])

/-- The characters that can stand first in a tag. -/
def startsTag (c : Char) : Bool :=
  ('a' ≤ c && c ≤ 'z') || c == '#' || c == '/' || c == '@'

/-- The next bracket is a closing one. -/
def closesNext : List Char → Bool
  | [] => false
  | c :: rest => if c == ']' then true else if c == '[' then false else closesNext rest

/-- What follows a `[` makes it the start of a tag. -/
def opensTag : List Char → Bool
  | [] => false
  | c :: rest => startsTag c && closesNext rest

/-- Where a scan stands: outside of tags, behind a number of backslashes, or inside a tag, with the
content so far reversed. -/
inductive Scan where
  | outside (slashes : Nat)
  | inside (slashes : Nat) (content : List Char)

/-- A run of plain backslashes. -/
def plainSlashes (n : Nat) : List Piece :=
  List.replicate n (.plain '\x5c')

/-- Cuts the rest of a text into pieces. -/
def scanFrom : Scan → List Char → List Piece
  | .outside slashes, [] => plainSlashes slashes
  | .inside slashes content, [] =>
    plainSlashes slashes ++ .plain '[' :: content.reverse.map .plain
  | .outside slashes, c :: rest =>
    if c == '\x5c' then scanFrom (.outside (slashes + 1)) rest
    else if c == '[' && opensTag rest then scanFrom (.inside slashes []) rest
    else plainSlashes slashes ++ .plain c :: scanFrom (.outside 0) rest
  | .inside slashes content, c :: rest =>
    if c == ']' then .tag slashes content.reverse :: scanFrom (.outside 0) rest
    else scanFrom (.inside slashes (c :: content)) rest

/-- The pieces of a text. -/
def scan (cs : List Char) : List Piece :=
  scanFrom (.outside 0) cs

/-- What a scan has taken in but not yet given out. -/
def Scan.pending : Scan → List Char
  | outside slashes => List.replicate slashes '\x5c'
  | inside slashes content => List.replicate slashes '\x5c' ++ '[' :: content.reverse

theorem flatMap_source_plainSlashes (n : Nat) :
    (plainSlashes n).flatMap Piece.source = List.replicate n '\x5c' := by
  induction n with
  | zero => rfl
  | succ n ih => simpa [plainSlashes, List.replicate_succ, Piece.source] using ih

theorem flatMap_source_plain (cs : List Char) : (cs.map .plain).flatMap Piece.source = cs := by
  induction cs with
  | nil => rfl
  | cons c rest ih => simpa [Piece.source] using ih

/-- **A scan loses nothing**: the pieces spell what was pending and what was read. -/
theorem flatMap_source_scanFrom (s : Scan) (cs : List Char) :
    (scanFrom s cs).flatMap Piece.source = s.pending ++ cs := by
  fun_induction scanFrom s cs <;>
    simp_all [Piece.source, Scan.pending, flatMap_source_plainSlashes, List.replicate_succ',
      -List.map_reverse, flatMap_source_plain]

/-- The pieces of a text spell the text. -/
theorem flatMap_source_scan (cs : List Char) : (scan cs).flatMap Piece.source = cs := by
  simp [scan, flatMap_source_scanFrom, Scan.pending]

end BoundedVars.Markup
