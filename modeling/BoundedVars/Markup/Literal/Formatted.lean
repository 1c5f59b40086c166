import BoundedVars.Markup.Literal.Escape
import BoundedVars.Markup.Literal.Reader

/-!
# Texts with fields

A formatted text holds fields between braces: an expression, and behind it, each optional, an
equals sign, a conversion and a specification that may hold fields itself.  A brace that is doubled
stands for itself.  `Formatted.check` checks such a text, given a way to check an expression.
-/

namespace BoundedVars.Markup.Literal.Formatted

/-- What can be wrong with a formatted text. -/
inductive Fault where
  | loneBrace
  | nestedTooDeep
  | backslash
  | remark
  | tooManyBrackets
  | unmatched (bracket : Char)
  | mismatched (closing opening : Char)
  | unterminated
  | unclosedField
  | emptyExpression
  | missingExpression (terminator : Char)
  | badConversion
  | escape (fault : Escape.Fault)
  deriving Repr, DecidableEq

/-- The wording of a fault. -/
def Fault.message : Fault → String
  | loneBrace => "f-string: single '\x7d' is not allowed"
  | nestedTooDeep => "f-string: expressions nested too deeply"
  | backslash => "f-string expression part cannot include a backslash"
  | remark => "f-string expression part cannot include '#'"
  | tooManyBrackets => "f-string: too many nested parenthesis"
  | unmatched bracket => "f-string: unmatched '" ++ String.singleton bracket ++ "'"
  | mismatched closing opening =>
    "f-string: closing parenthesis '" ++ String.singleton closing
      ++ "' does not match opening parenthesis '" ++ String.singleton opening ++ "'"
  | unterminated => "f-string: unterminated string"
  | unclosedField => "f-string: expecting '\x7d'"
  | emptyExpression => "f-string: empty expression not allowed"
  | missingExpression terminator =>
    "f-string: expression required before '" ++ String.singleton terminator ++ "'"
  | badConversion => "f-string: invalid conversion character: expected 's', 'r', or 'a'"
  | escape fault => fault.message

/-! ### Between fields -/

/-- A stretch of text between fields, and what follows it.  Where it ends with a doubled brace,
`isDoubled` holds and the text goes on behind it. -/
structure Stretch where
  text : List Char
  rest : List Char
  isDoubled : Bool

/-- The end, at a brace, of a stretch with the given text, the last character first.  Within a
specification no brace is doubled. -/
def atBrace (isNested : Bool) (text : List Char) (brace : Char) (rest : List Char) :
    Except Fault Stretch :=
  if isNested then .ok ⟨text.reverse, brace :: rest, false⟩
  else if rest.head? == some brace then .ok ⟨(brace :: text).reverse, rest.drop 1, true⟩
  else if brace = '\x7d' then .error .loneBrace
  else .ok ⟨text.reverse, brace :: rest, false⟩

/-- The stretch that a text begins with, behind `text`, the last character first.  A character
given by its name holds braces that begin no field. -/
def stretch (isRaw isNested isNamed : Bool) (text : List Char) :
    List Char → Except Fault Stretch
  | [] => .ok ⟨text.reverse, [], false⟩
  | c :: rest =>
    if isNamed then stretch isRaw isNested (c != '\x7d') (c :: text) rest
    else if c = '\x7b' || c = '\x7d' then atBrace isNested text c rest
    else if c = '\x5c' && !isRaw then
      match rest with
      | 'N' :: '\x7b' :: rest =>
        stretch isRaw isNested true ('\x7b' :: 'N' :: '\x5c' :: text) rest
      | 'N' :: d :: rest => stretch isRaw isNested false (d :: 'N' :: '\x5c' :: text) rest
      | d :: rest =>
        if d = '\x7b' || d = '\x7d' then atBrace isNested ('\x5c' :: text) d rest
        else stretch isRaw isNested false (d :: '\x5c' :: text) rest
      | [] => .ok ⟨('\x5c' :: text).reverse, [], false⟩
    else stretch isRaw isNested false (c :: text) rest

/-! ### The expression of a field -/

/-- What encloses the next character of an expression: the brackets open, the innermost first, and
the quote of a text with the number of quotes that close it. -/
structure Enclosure where
  brackets : List Char
  quote? : Option (Char × Nat)
  deriving Repr

/-- What is found in a text: an expression, and what follows it. -/
abbrev Found := Except Fault (List Char × List Char)

/-- Three quotes in a row. -/
def isTriple (quote : Char) (rest : List Char) : Bool :=
  rest.take 2 == [quote, quote]

/-- What encloses the characters behind a quote that opens a text, or behind one in a text. -/
def Enclosure.afterQuote (c : Char) (rest : List Char) (e : Enclosure) : Enclosure :=
  match e.quote? with
  | none => { e with quote? := some (c, if isTriple c rest then 3 else 1) }
  | some (quote, size) =>
    if c = quote && (size = 1 || isTriple c rest) then { e with quote? := none } else e

/-- What encloses the characters behind a bracket. -/
def Enclosure.afterBracket (c : Char) (e : Enclosure) : Except Fault Enclosure :=
  if ['(', '[', '\x7b'].contains c then
    if Scan.maxDepth ≤ e.brackets.length then .error .tooManyBrackets
    else .ok { e with brackets := c :: e.brackets }
  else if [')', ']', '\x7d'].contains c then
    match e.brackets with
    | [] => .error (.unmatched c)
    | opening :: brackets =>
      if Scan.closingOf opening = c then .ok { e with brackets }
      else .error (.mismatched c opening)
  else .ok e

/-- The expression that a text begins with, behind `text`, the last character first; `skipped`
characters are a part of it whatever they are. -/
def expression (e : Enclosure) (text : List Char) (skipped : Nat) : List Char → Found
  | [] =>
    if e.quote?.isSome then .error .unterminated
    else
      match e.brackets with
      | opening :: _ => .error (.unmatched opening)
      | [] => .ok (text.reverse, [])
  | c :: rest =>
    if 0 < skipped then expression e (c :: text) (skipped - 1) rest
    else if c = '\x5c' then .error .backslash
    else if c = '\x27' || c = '\x22' || e.quote?.isSome then
      let next := e.afterQuote c rest
      let isWhole := (e.quote?.map Prod.snd).getD 0 = 3 && next.quote?.isNone
        || (next.quote?.map Prod.snd).getD 0 = 3 && e.quote?.isNone
      expression next (c :: text) (if isWhole then 2 else 0) rest
    else if c = '#' then .error .remark
    else if e.brackets.isEmpty && ['!', ':', '\x7d', '=', '<', '>'].contains c then
      if rest.head? == some '=' && ['!', '=', '<', '>'].contains c then
        expression e (c :: text) 1 rest
      else if c = '<' || c = '>' then expression e (c :: text) 0 rest
      else .ok (text.reverse, c :: rest)
    else
      match e.afterBracket c with
      | .error fault => .error fault
      | .ok next => expression next (c :: text) 0 rest

/-- The complaint that there is no expression in front of what follows. -/
def noExpression (rest : List Char) : Fault :=
  match rest.head? with
  | some c => if ['!', ':', '='].contains c then .missingExpression c else .emptyExpression
  | none => .emptyExpression

/-! ### Fields -/

/-- White space that may follow the equals sign of a field. -/
def isMargin (c : Char) : Bool :=
  c = ' ' || (0x9 ≤ c.toNat && c.toNat ≤ 0xd)

/-- What follows the conversion of a field, or its equals sign, or its expression. -/
def afterConversion (rest : List Char) : Except Fault (List Char) :=
  match rest with
  | '!' :: [] => .error .unclosedField
  | '!' :: c :: rest => if ['s', 'r', 'a'].contains c then .ok rest else .error .badConversion
  | _ => .ok rest

/-- A fault as a complaint. -/
def complain {α : Type} (result : Except Fault α) : Except Stop α :=
  result.mapError fun fault => .complaint fault.message

/-- What follows a field, from the character behind its opening brace on. -/
def field (isExpression : List Char → Except Stop Unit)
    (specification : List Char → Except Stop (List Char)) (cs : List Char) :
    Except Stop (List Char) := do
  let (text, rest) ← complain (expression ⟨[], none⟩ [] 0 cs)
  if rest.isEmpty then throw (.complaint Fault.unclosedField.message)
  if text.all fun c => [' ', '\t', '\n', '\x0c'].contains c then
    throw (.complaint (noExpression rest).message)
  isExpression text
  let rest := if rest.head? == some '=' then (rest.drop 1).dropWhile isMargin else rest
  if rest.isEmpty then throw (.complaint Fault.unclosedField.message)
  let rest ← complain (afterConversion rest)
  let rest ← match rest with
    | ':' :: [] => throw (.complaint Fault.unclosedField.message)
    | ':' :: rest => specification rest
    | _ => pure rest
  match rest with
  | '\x7d' :: rest => return rest
  | _ => throw (.complaint Fault.unclosedField.message)

/-- What follows a formatted text that stands within `level` fields: nothing if it stands in none,
the brace that closes the innermost otherwise.  As each round passes over a character, as many
rounds as characters are enough. -/
def check (isExpression : List Char → Except Stop Unit) (isRaw : Bool) :
    Nat → Nat → List Char → Except Stop (List Char)
  | 0, _, _ => .error .tooDeep
  | rounds + 1, level, cs => do
    let found ← complain (stretch isRaw (0 < level) false [] cs)
    if !isRaw then complain ((Escape.checkText found.text).mapError .escape)
    if found.isDoubled then check isExpression isRaw rounds level found.rest
    else
      match found.rest with
      | '\x7b' :: rest =>
        if 2 ≤ level then throw (.complaint Fault.nestedTooDeep.message)
        let rest ← field isExpression (check isExpression isRaw rounds (level + 1)) rest
        check isExpression isRaw rounds level rest
      | rest =>
        if level = 0 || rest.head? == some '\x7d' then return rest
        else throw (.complaint Fault.unclosedField.message)

end BoundedVars.Markup.Literal.Formatted
