import BoundedVars.Markup.Literal.Formatted

/-!
# Quoted texts

A quoted text may have a mark in front: `b` for bytes, `f` for a formatted text, `r` for one
without escapes, `u` for nothing in particular.  Quoted texts that follow each other are one
(`Quotation.join`), and then all or none of them are bytes.
-/

namespace BoundedVars.Markup.Literal

/-- A quoted text: what is between the quotes, and what the mark in front of them says. -/
structure Quotation where
  body : List Char
  isBytes : Bool
  isFormatted : Bool
  isRaw : Bool
  deriving Repr

namespace Quotation

/-- A quote that opens or closes a text. -/
def isQuote (c : Char) : Bool :=
  c = '\x27' || c = '\x22'

/-- The quoted text that a token is. -/
def ofToken (token : Token) : Quotation :=
  let cs := token.text.toList
  let mark := (cs.takeWhile fun c => !isQuote c).map Char.toLower
  let quoted := cs.dropWhile fun c => !isQuote c
  let size := if 6 ≤ quoted.length && quoted.take 3 == List.replicate 3 (quoted.headD ' ') then 3
    else 1
  ⟨(quoted.drop size).take (quoted.length - 2 * size), mark.contains 'b', mark.contains 'f',
    mark.contains 'r'⟩

/-- Checks what is between the quotes of a text that is not formatted. -/
def check (q : Quotation) : Except Stop Unit :=
  if q.isBytes then
    if q.body.any (128 ≤ ·.toNat) then
      .error (.complaint "bytes can only contain ASCII literal characters")
    else if q.isRaw then .ok ()
    else (Escape.checkBytes q.body).mapError fun fault => .complaint fault.message
  else if q.isRaw then .ok ()
  else (Escape.checkText q.body).mapError fun fault => .complaint fault.message

/-- Checks a formatted text, given a way to check an expression. -/
def checkFormatted (isExpression : List Char → Except Stop Unit) (q : Quotation) :
    Except Stop Unit := do
  let _ ← Formatted.check isExpression q.isRaw (q.body.length + 1) 0 q.body

/-- Checks quoted texts that follow one that is bytes or is not. -/
def checkAll (isExpression : List Char → Except Stop Unit) (isBytes : Bool) :
    List Quotation → Except Stop Unit
  | [] => .ok ()
  | q :: rest => do
    if !q.isFormatted then q.check
    if q.isBytes != isBytes then
      throw (.complaint "cannot mix bytes and nonbytes literals")
    if q.isFormatted then q.checkFormatted isExpression
    checkAll isExpression isBytes rest

/-- Quoted texts that follow each other as one. -/
def join (isExpression : List Char → Except Stop Unit) (tokens : List Token) :
    Except Stop Tree := do
  let quotations := tokens.map ofToken
  let isBytes := quotations.head?.any (·.isBytes)
  checkAll isExpression isBytes quotations
  return .node (if quotations.any (·.isFormatted) then .formatted
    else .constant (if isBytes then .bytes else .text)) []

end Quotation

end BoundedVars.Markup.Literal
