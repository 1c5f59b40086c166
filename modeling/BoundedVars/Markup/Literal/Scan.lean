import BoundedVars.Markup.Literal.Number
import BoundedVars.Markup.Literal.Token
import BoundedVars.Number.Notation
import BoundedVars.Text.Quoted
import BoundedVars.Text.Word

/-!
# Cutting a literal into tokens

`Scan.ofText` cuts a text into its tokens.  Line ends count only outside brackets, and a line that
begins farther right or farther left than the one before says so with a token of its own.

Where a text cannot be cut, the tokens before that place stand and the scan keeps the fault.  Most
faults come before any complaint about the tokens; a few *give way* to a complaint about an earlier
token, among them that a bracket is still open at the end of the text.
-/

namespace BoundedVars.Markup.Literal

/-- Why a text cannot be cut any further. -/
inductive Scan.Fault where
  | number (fault : Number.Fault)
  | unterminated (line : Nat)
  | unterminatedTriple (line : Nat)
  | badCharacter (c : Char)
  | unprintable (c : Char)
  | tooDeep
  | unmatched (closing : Char)
  | mismatched (closing opening : Char) (line : Option Nat)
  | badContinuation
  | cutShort
  | badUnindent
  | badMargin
  | tooManyMargins
  | unclosed (opening : Char)
  deriving Repr, DecidableEq

/-- A code point as it is cited: four digits or more. -/
def citedCode (c : Char) : String :=
  "U+" ++ String.ofList ((Text.hex 4 c.toNat).map Char.toUpper)

/-- The wording of a fault. -/
def Scan.Fault.message : Scan.Fault → String
  | number fault => fault.message
  | unterminated line => "unterminated string literal (detected at line " ++ decimal line ++ ")"
  | unterminatedTriple line =>
    "unterminated triple-quoted string literal (detected at line " ++ decimal line ++ ")"
  | badCharacter c => "invalid character '" ++ String.singleton c ++ "' (" ++ citedCode c ++ ")"
  | unprintable c => "invalid non-printable character " ++ citedCode c
  | tooDeep => "too many nested parentheses"
  | unmatched closing => "unmatched '" ++ String.singleton closing ++ "'"
  | mismatched closing opening line =>
    "closing parenthesis '" ++ String.singleton closing ++ "' does not match opening parenthesis '"
      ++ String.singleton opening ++ "'" ++ (line.map fun n => " on line " ++ decimal n).getD ""
  | badContinuation => "unexpected character after line continuation character"
  | cutShort => "unexpected EOF while parsing"
  | badUnindent => "unindent does not match any outer indentation level"
  | badMargin => "inconsistent use of tabs and spaces in indentation"
  | tooManyMargins => "too many levels of indentation"
  | unclosed opening => "'" ++ String.singleton opening ++ "' was never closed"

/-- The fault gives way to a complaint about an earlier token. -/
def Scan.Fault.givesWay : Scan.Fault → Bool
  | badContinuation | cutShort | badUnindent | badMargin | tooManyMargins | unclosed _ => true
  | _ => false

/-- A text cut into tokens: the tokens, the fault that ended the scan, and the brackets that were
open then, the innermost first, with their lines.  With the last token the end of the text has been
seen when it stands there, except that a quoted text says itself where it ends. -/
structure Scan where
  tokens : Array Token
  fault? : Option Scan.Fault
  brackets : List (Char × Nat)
  isEndSeen : Bool
  deriving Repr

namespace Scan

/-- The most brackets that may be open at a time. -/
def maxDepth : Nat := 200

/-- The most margins that may be in force at a time. -/
def maxMargins : Nat := 100

/-- A margin: its width with tabs at every eighth column, and with tabs as wide as a blank. -/
structure Margin where
  width : Nat
  narrow : Nat
  deriving Repr, DecidableEq

/-- What is left to cut, and what is known of what came before. -/
structure State where
  rest : List Char
  line : Nat
  brackets : List (Char × Nat)
  margins : List Margin
  atLineStart : Bool
  deriving Repr

/-- The token up to a cut, which holds `lines` line ends, and the state behind it. -/
def State.token (kind : Kind) (lines : Nat) (cut : Cut) (s : State) : List Token × State :=
  let text := String.ofList (s.rest.take cut.passed)
  ([⟨kind, text, s.line, s.brackets.length⟩], { s with rest := cut.rest, line := s.line + lines })

/-- What stands behind a backslash that continues a line. -/
def afterContinuation : List Char → Except Fault (List Char)
  | '\n' :: [] => .error .cutShort
  | '\n' :: rest => .ok rest
  | _ => .error .badContinuation

/-! ### Margins -/

/-- The margin that a line begins with, the number of lines it takes beyond one, and what stands
behind it.  A margin that is continued on the next line is as wide as before the first backslash;
`kept` is that width. -/
def margin (kept lines : Nat) (m : Margin) : List Char → Except Fault (Margin × Nat × List Char)
  | ' ' :: rest => margin kept lines ⟨m.width + 1, m.narrow + 1⟩ rest
  | '\t' :: rest => margin kept lines ⟨(m.width / 8 + 1) * 8, m.narrow + 1⟩ rest
  | '\x0c' :: rest => margin kept lines ⟨0, 0⟩ rest
  | '\x5c' :: '\n' :: c :: rest =>
    margin (if kept = 0 then m.width else kept) (lines + 1) m (c :: rest)
  | '\x5c' :: rest => do
    let _ ← afterContinuation rest
    return (m, lines, rest)
  | rest => .ok (if kept = 0 then m else ⟨kept, kept⟩, lines, rest)

/-- Drops the margins wider than `m`. -/
def narrowTo (m : Margin) : List Margin → List Margin × Nat
  | [] => ([], 0)
  | top :: rest =>
    if m.width < top.width then
      let (margins, dropped) := narrowTo m rest
      (margins, dropped + 1)
    else (top :: rest, 0)

/-- The tokens of a change of margin, and the margins then in force. -/
def changeMargin (line : Nat) (m : Margin) (margins : List Margin) :
    Except Fault (List Token × List Margin) :=
  let top := margins.headD ⟨0, 0⟩
  if m.width = top.width then
    if m.narrow = top.narrow then .ok ([], margins) else .error .badMargin
  else if top.width < m.width then
    if maxMargins ≤ margins.length + 1 then .error .tooManyMargins
    else if m.narrow ≤ top.narrow then .error .badMargin
    else .ok ([⟨.indent, "", line, 0⟩], m :: margins)
  else
    let (kept, dropped) := narrowTo m margins
    let top := kept.headD ⟨0, 0⟩
    if m.width ≠ top.width then .error .badUnindent
    else if m.narrow ≠ top.narrow then .error .badMargin
    else .ok (List.replicate dropped ⟨.dedent, "", line, 0⟩, kept)

/-- The beginning of a line.  A line with nothing but a remark on it has no margin and no end,
and a line between brackets has no margin. -/
def lineStart (s : State) : Except Fault (List Token × State) := do
  let (m, lines, rest) ← margin 0 0 ⟨0, 0⟩ s.rest
  let s := { s with rest := rest, line := s.line + lines, atLineStart := false }
  if rest.head? == some '#' || rest.head? == some '\n' then
    match rest.dropWhile (· != '\n') with
    | [] => return ([], { s with rest := [] })
    | _ :: rest => return ([], { s with rest := rest, line := s.line + 1, atLineStart := true })
  else if s.brackets.isEmpty then
    let (tokens, margins) ← changeMargin s.line m s.margins
    return (tokens, { s with margins := margins })
  else return ([], s)

/-! ### Tokens within a line -/

/-- What may stand in front of a quote, in any case. -/
def quoteMarks : List String :=
  ["b", "br", "f", "fr", "r", "rb", "rf", "u"]

/-- What has been passed of a quoted text, and how many line ends. -/
structure Passed where
  cut : Cut
  lines : Nat

/-- Passes over the closing quotes of a text, of which there are `size`, when `run` of them have
just been passed; or up to where the text ought to have been closed. -/
def afterQuoted (quote : Char) (size run passed lines : Nat) : List Char → Except Nat Passed
  | [] => .error lines
  | '\x5c' :: c :: rest =>
    afterQuoted quote size 0 (passed + 2) (if c = '\n' then lines + 1 else lines) rest
  | c :: rest =>
    if c = quote then
      if run + 1 = size then .ok ⟨⟨passed + 1, rest⟩, lines⟩
      else afterQuoted quote size (run + 1) (passed + 1) lines rest
    else if c = '\n' then
      if size = 1 then .error lines else afterQuoted quote size 0 (passed + 1) (lines + 1) rest
    else afterQuoted quote size 0 (passed + 1) lines rest

/-- A quoted text, the opening quotes of which are next. -/
def quotedText (cut : Cut) (s : State) : Except Fault (List Token × State) :=
  let quote := cut.rest.headD '\x27'
  let size := if cut.rest.take 3 == [quote, quote, quote] then 3 else 1
  match afterQuoted quote size 0 (cut.passed + size) 0 (cut.rest.drop size) with
  | .ok passed => .ok (s.token .quoted passed.lines passed.cut)
  | .error lines =>
    let line := s.line + lines
    .error (if size = 3 then .unterminatedTriple line else .unterminated line)

/-- A word, or a quoted text with a mark in front of it. -/
def word (s : State) : Except Fault (List Token × State) :=
  let chars := s.rest.takeWhile Number.isWordPart
  let cut := (Cut.ofList s.rest).skip chars.length
  if cut.startsWith (fun c => c = '\x27' || c = '\x22')
      && quoteMarks.contains (String.ofList (chars.map Char.toLower)) then
    quotedText cut s
  else
    match if chars.any (128 ≤ ·.toNat) then Text.identifierFault? chars else none with
    | none => .ok (s.token .name 0 cut)
    | some c => .error (if Text.isPrintable c then .badCharacter c else .unprintable c)

/-- The operators of more than one character, the longest first. -/
def longOperators : List String :=
  ["**=", "//=", ">>=", "<<=", "...", "!=", "%=", "&=", "**", "*=", "+=", "-=", "->", "//", "/=",
   ":=", "<<", "<=", "<>", "==", ">=", ">>", "@=", "^=", "|="]

/-- The closing bracket that belongs to an opening one. -/
def closingOf (opening : Char) : Char :=
  if opening = '(' then ')' else if opening = '[' then ']' else '}'

/-- An opening bracket. -/
def openBracket (c : Char) (s : State) : Except Fault (List Token × State) :=
  if maxDepth ≤ s.brackets.length then .error .tooDeep
  else
    let inner := { s with brackets := (c, s.line) :: s.brackets }
    .ok (inner.token .operator 0 ((Cut.ofList s.rest).skip 1))

/-- A closing bracket. -/
def closeBracket (c : Char) (s : State) : Except Fault (List Token × State) :=
  match s.brackets with
  | [] => .error (.unmatched c)
  | (opening, line) :: brackets =>
    if closingOf opening = c then
      .ok ({ s with brackets := brackets }.token .operator 0 ((Cut.ofList s.rest).skip 1))
    else .error (.mismatched c opening (if line = s.line then none else some line))

/-- An operator, or a character that nothing begins with. -/
def operator (c : Char) (s : State) : Except Fault (List Token × State) :=
  match longOperators.find? (Number.startsWith s.rest) with
  | some word => .ok (s.token .operator 0 ((Cut.ofList s.rest).skip word.length))
  | none =>
    if c.toNat < 0x20 || c.toNat = 0x7f then .error (.unprintable c)
    else if ['(', '[', '{'].contains c then openBracket c s
    else if [')', ']', '}'].contains c then closeBracket c s
    else .ok (s.token .operator 0 ((Cut.ofList s.rest).skip 1))

/-- The end of the text. -/
def finish (s : State) : Except Fault (List Token × State) :=
  match s.brackets with
  | [] => .ok (s.token .ending 0 ⟨0, []⟩)
  | (opening, _) :: _ => .error (.unclosed opening)

/-- The tokens that come next, none where only blanks, a remark or a line end are passed over. -/
def step (s : State) : Except Fault (List Token × State) :=
  if s.atLineStart then lineStart s
  else
    let rest := s.rest.dropWhile fun c => c = ' ' || c = '\t' || c = '\x0c'
    let rest := if rest.head? == some '#' then rest.dropWhile (· != '\n') else rest
    let s := { s with rest := rest }
    match rest with
    | [] => finish s
    | '\n' :: rest =>
      if s.brackets.isEmpty then
        let (tokens, s) := s.token .newline 1 ⟨1, rest⟩
        .ok (tokens, { s with atLineStart := true })
      else .ok ([], { s with rest := rest, line := s.line + 1, atLineStart := true })
    | '\x5c' :: rest => do
      return ([], { s with rest := ← afterContinuation rest, line := s.line + 1 })
    | c :: rest =>
      if c.isDigit || (c = '.' && rest.head?.any Char.isDigit) then do
        return s.token .number 0 (← (Number.finish (Cut.ofList s.rest)).mapError .number)
      else if Number.isWordPart c then word s
      else if c = '\x27' || c = '\x22' then quotedText (Cut.ofList s.rest) s
      else operator c s

/-- Goes on cutting for at most the given number of steps. -/
def run : Nat → Array Token → State → Scan
  | 0, tokens, s => ⟨tokens, none, s.brackets, true⟩
  | steps + 1, tokens, s =>
    match step s with
    | .error fault =>
      ⟨tokens, some fault, s.brackets,
        s.rest.isEmpty && tokens.back?.any (·.kind != .quoted)⟩
    | .ok (more, s) =>
      let tokens := tokens ++ more
      if more.any (·.kind == .ending) then ⟨tokens, none, s.brackets, true⟩
      else run steps tokens s

/-- Cuts a text whose lines end in `\n` into tokens.  Each step passes over a character or leaves
the start of a line, so twice as many steps as characters are enough. -/
def ofText (cs : List Char) : Scan :=
  run (2 * cs.length + 4) #[] ⟨cs, 1, [], [], true⟩

end Scan

end BoundedVars.Markup.Literal
