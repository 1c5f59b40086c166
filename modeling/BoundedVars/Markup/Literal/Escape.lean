import BoundedVars.Markup.Literal.Constant
import BoundedVars.Markup.Literal.Number

/-!
# Escapes in quoted texts

A backslash in a quoted text begins an escape.  Most escapes cannot go wrong; those that give a
code point in hexadecimal digits or by its name can.  A fault is placed by counting in a spelling
of the text where every character beyond ASCII takes ten places, and a backslash in front of one
takes six.
-/

namespace BoundedVars.Markup.Literal.Escape

/-- What can be wrong with an escape in a text. -/
inductive Reason where
  | truncated (mark : Char) (digits : Nat)
  | beyondRange
  | badName
  | unknownName
  deriving Repr, DecidableEq

/-- The wording of a reason. -/
def Reason.message : Reason → String
  | truncated mark digits =>
    "truncated \\" ++ String.singleton mark ++ String.ofList (List.replicate digits 'X')
      ++ " escape"
  | beyondRange => "illegal Unicode character"
  | badName => "malformed \\N character escape"
  | unknownName => "unknown Unicode character name"

/-- What can be wrong with the escapes of a text, from one place up to, but without, another; or
with those of a sequence of bytes. -/
inductive Fault where
  | inText (start finish : Nat) (reason : Reason)
  | inBytes (start : Nat)
  deriving Repr, DecidableEq

/-- The wording of a fault. -/
def Fault.message : Fault → String
  | inText start finish reason =>
    "(unicode error) 'unicodeescape' codec can't decode bytes in position " ++ decimal start ++ "-"
      ++ decimal (finish - 1) ++ ": " ++ reason.message
  | inBytes start => "(value error) invalid \\x escape at position " ++ decimal start

/-- The places that a character takes. -/
def width (c : Char) : Nat :=
  if c.toNat < 128 then 1 else 10

/-- The places that characters take. -/
def widthOfAll (cs : List Char) : Nat :=
  cs.foldl (fun n c => n + width c) 0

/-- The number written with hexadecimal digits. -/
def hexValue (digits : List Char) : Nat :=
  Constant.ofDigits 16 digits

/-- How many hexadecimal digits follow the mark of an escape. -/
def hexDigits? (mark : Char) : Option Nat :=
  if mark = 'x' then some 2 else if mark = 'u' then some 4 else if mark = 'U' then some 8 else none

/-- The fault of an escape that begins at `start`; what follows its mark is `rest`. -/
def faultAt? (start : Nat) (mark : Char) (rest : List Char) : Option Fault :=
  match hexDigits? mark with
  | some count =>
    let digits := (rest.take count).takeWhile Number.isHexDigit
    if digits.length < count then
      some (.inText start (start + 2 + digits.length) (.truncated mark count))
    else if 0x10ffff < hexValue digits then some (.inText start (start + 2 + count) .beyondRange)
    else none
  | none =>
    if mark ≠ 'N' then none
    else
      match rest with
      | '\x7b' :: rest =>
        let name := rest.takeWhile (· != '\x7d')
        let finish := start + 3 + widthOfAll name
        if name.isEmpty then some (.inText start finish .badName)
        else if name.length = rest.length then some (.inText start finish .badName)
        else some (.inText start (finish + 1) .unknownName)
      | _ => some (.inText start (start + 2) .badName)

/-- The first fault of a text, whose next place is `position`. -/
def textFault? (position : Nat) : List Char → Option Fault
  | '\x5c' :: mark :: rest =>
    if 128 ≤ mark.toNat then textFault? (position + 6 + width mark) rest
    else
      match faultAt? position mark rest with
      | some fault => some fault
      | none => textFault? (position + 2) rest
  | c :: rest => textFault? (position + width c) rest
  | [] => none

/-- The first fault in the escapes of a sequence of bytes, whose next place is `position`. -/
def bytesFault? (position : Nat) : List Char → Option Fault
  | '\x5c' :: mark :: rest =>
    if mark = 'x' && ((rest.take 2).takeWhile Number.isHexDigit).length < 2 then
      some (.inBytes position)
    else bytesFault? (position + 2) rest
  | _ :: rest => bytesFault? (position + 1) rest
  | [] => none

/-- Checks the escapes of a text. -/
def checkText (cs : List Char) : Except Fault Unit :=
  match textFault? 0 cs with
  | some fault => .error fault
  | none => .ok ()

/-- Checks the escapes of a sequence of bytes. -/
def checkBytes (cs : List Char) : Except Fault Unit :=
  match bytesFault? 0 cs with
  | some fault => .error fault
  | none => .ok ()

end BoundedVars.Markup.Literal.Escape
