import BoundedVars.Markup.Literal.Mistakes
import BoundedVars.Markup.Literal.Quotation

/-!
# Reading a literal

`Reading.ofText` reads a whole text by the grammar of literals.  A text that cannot be read is read
once more, now with an eye to common mistakes, to find the best thing to say of it; and whatever
is said of it, a place farther on where the text cannot be cut into tokens comes first.

Expressions in the fields of formatted texts are read in the same way, each as a text of its own.
-/

namespace BoundedVars.Markup.Literal.Reading

/-- Why a text cannot be read. -/
inductive Fault where
  /-- what is said of the text -/
  | unreadable (message : String)
  /-- it is nested too deep to say anything -/
  | tooDeep
  deriving Repr, DecidableEq

/-- The line of the last of `reached` tokens. -/
def lineAt (scan : Scan) (reached : Nat) : Nat :=
  ((scan.tokens[reached - 1]?).map Token.line).getD 1

/-- What is said of a text instead of a complaint, after `reached` tokens had been asked for.  A
bracket that is never closed counts for more than the complaint only if it stands on an earlier
line. -/
def override? (scan : Scan) (reached : Nat) : Option String :=
  match scan.fault? with
  | none => none
  | some fault =>
    if !fault.givesWay then some fault.message
    else
      match scan.brackets with
      | (opening, line) :: _ =>
        if line < lineAt scan reached then some (Scan.Fault.unclosed opening).message else none
      | [] => none

/-- What is said of a text with a complaint about it.  Once the end of the text has been seen,
nothing comes before the complaint. -/
def weigh (scan : Scan) (reached : Nat) (message : String) : Fault :=
  if scan.isEndSeen && scan.tokens.size ≤ reached then .unreadable message
  else .unreadable ((override? scan reached).getD message)

/-- What comes of a stop, after `reached` tokens had been asked for. -/
def afterStop (label : String) (scan : Scan) (reached : Nat) : Stop → Fault
  | .complaint message => weigh scan reached (label ++ message)
  | .innerComplaint message => weigh scan reached message
  | .uncut fault => .unreadable fault.message
  | .tooDeep => .tooDeep

/-- What is said of a text about which there is nothing better to say, when the first reading asked
for `first` tokens and the second for `second`. -/
def plainFault (label : String) (scan : Scan) (first second : Nat) : Fault :=
  match (scan.tokens[first - 1]?).map Token.kind with
  | some .indent => .unreadable (label ++ "unexpected indent")
  | some .dedent => .unreadable (label ++ "unexpected unindent")
  | _ => .unreadable ((override? scan second).getD (label ++ "invalid syntax"))

/-- Reads a text from a phrase of the grammar on.  The label stands in front of complaints. -/
def read (phrase : Phrase) (label : String) (join : List Token → Except Stop Tree)
    (cs : List Char) : Except Fault Tree :=
  let scan := Scan.ofText cs
  let source : Source := ⟨scan, join⟩
  let reader := Rule.read Rule.definition source (.phrase phrase)
  match reader (source.start 0 false) with
  | .error (stop, reached) => .error (afterStop label scan reached stop)
  | .ok (some tree, _) => .ok tree
  | .ok (none, place) =>
    match reader (source.start place.reached true) with
    | .error (stop, reached) => .error (afterStop label scan reached stop)
    | .ok (_, after) => .error (plainFault label scan place.reached after.reached)

/-- Checks an expression in a field, within at most the given number of formatted texts. -/
def checkExpression : Nat → List Char → Except Stop Unit
  | 0, _ => .error .tooDeep
  | depth + 1, cs =>
    match read .formattedStart "f-string: " (Quotation.join (checkExpression depth))
        ('(' :: (cs ++ [')'])) with
    | .ok _ => .ok ()
    | .error (.unreadable message) => .error (.innerComplaint message)
    | .error .tooDeep => .error .tooDeep

/-- Reads a text whose lines end in `\n`. -/
def ofText (cs : List Char) : Except Fault Tree :=
  read .start "" (Quotation.join (checkExpression cs.length)) cs

end BoundedVars.Markup.Literal.Reading
