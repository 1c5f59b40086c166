import BoundedVars.Markup.Literal.Meaning
import BoundedVars.Markup.Literal.Reading
import BoundedVars.Text.Blank
import BoundedVars.Text.Quoted
import BoundedVars.Text.Word

/-!
# Handlers

A tag whose name starts with `@` attaches a handler.  Its parameters are a literal, or the dotted
name of an action with or without a literal in round brackets behind it; of such a call only the
brackets are read, and without them there is nothing to read.  The parameters themselves are of no
interest here, only whether they can be read and denote something (`Handler.check`).
-/

namespace BoundedVars.Markup.Handler

/-- What can be wrong with the parameters of a handler. -/
inductive Fault where
  | unreadable (text parameters message : String)
  | unusable (parameters message : String)
  deriving Repr, DecidableEq

/-- The wording of a fault. -/
def Fault.message : Fault → String
  | unreadable text parameters message =>
    "error parsing " ++ Text.quoted text ++ " in " ++ Text.quoted parameters ++ "; " ++ message
  | unusable parameters message =>
    "error parsing " ++ Text.quoted parameters ++ "; " ++ message

/-- The brackets of a call that characters, up to their end, form after its name. -/
def brackets? (cs : List Char) : Option (List Char) :=
  match cs with
  | [] => some ['(', ')']
  | '(' :: rest => if rest.getLast? == some ')' && !rest.contains '\n' then some cs else none
  | _ => none

/-- The literal among the parameters of a handler: of a call, what is in its brackets. -/
def literal (cs : List Char) : List Char :=
  (brackets? (cs.dropWhile fun c => Text.isWord c || c = '.')).getD cs

/-- Line ends are `\n`, whatever they are written with; `text` comes before, the last character
first, and `isReturn` says that a carriage return has just been passed. -/
def lineEndsAfter (isReturn : Bool) (text : List Char) : List Char → List Char
  | [] => text.reverse
  | '\r' :: rest => lineEndsAfter true ('\n' :: text) rest
  | '\n' :: rest => lineEndsAfter false (if isReturn then text else '\n' :: text) rest
  | c :: rest => lineEndsAfter false (c :: text) rest

/-- Characters with line ends that are all `\n`. -/
def withLineEnds (cs : List Char) : List Char :=
  lineEndsAfter false [] cs

/-- Reads the parameters of a handler. -/
def check (parameters : List Char) : Except Fault Unit :=
  let cs := literal (Text.trim parameters)
  let whole := String.ofList parameters
  if cs.contains '\x00' then
    .error (.unusable whole "source code string cannot contain null bytes")
  else
    match Literal.Reading.ofText (withLineEnds cs) with
    | .error (.unreadable message) => .error (.unreadable (String.ofList cs) whole message)
    | .error .tooDeep => .error (.unusable whole "")
    | .ok tree => (Literal.checkTree tree).mapError fun refusal => .unusable whole refusal.message

end BoundedVars.Markup.Handler
