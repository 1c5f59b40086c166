import BoundedVars.Markup.Literal.Constant
import BoundedVars.Number.Double

/-!
# What a literal denotes

Of the trees that can be read only some denote something: constants, numbers with a sign, the sum or
difference of a real and an imaginary number, and tuples, sets and dictionaries of what denotes
something itself.  The elements of a set and the keys of a dictionary must not hold a set or a
dictionary.  `checkTree` tells why a tree denotes nothing.
-/

namespace BoundedVars.Markup.Literal

/-- Why a tree that has been read denotes nothing. -/
inductive Refusal where
  | malformed
  | missingKey
  | unhashable (type : String)
  | tooLarge
  | tooDeep
  deriving Repr, DecidableEq

/-- The wording of a refusal. -/
def Refusal.message : Refusal → String
  | malformed => "malformed node or string"
  | missingKey => "malformed node or string: None"
  | unhashable type => "unhashable type: '" ++ type ++ "'"
  | tooLarge => "int too large to convert to float"
  | tooDeep => "maximum recursion depth exceeded during ast construction"

/-- What a literal denotes, as far as it matters to the literal that it stands in: whether it can
be a key, and if not, why. -/
inductive Meaning where
  | key
  | unhashable (type : String)
  deriving Repr, DecidableEq

/-- The number that a tree is, without a sign. -/
def number? : Tree → Option Constant
  | .node (.constant value) _ =>
    match value with
    | .integer _ _ | .fraction | .imaginary => some value
    | _ => none
  | _ => none

/-- The number that a tree is, with at most one sign. -/
def signedNumber? : Tree → Option Constant
  | .node (.unary operator) [operand] =>
    if operator = "+" ∨ operator = "-" then number? operand else none
  | tree => number? tree

/-- An integer that has no nearest double. -/
def isTooLarge (n : Nat) : Bool :=
  match Double.ofRatio false n 1 with
  | .infinite _ => true
  | _ => false

/-- Checks a number, or the sum or difference of a real and an imaginary one. -/
def checkNumber : Tree → Except Refusal Meaning
  | .node (.binary operator) [left, right] =>
    if operator = "+" ∨ operator = "-" then
      match signedNumber? left, number? right with
      | some (.integer radix digits), some .imaginary =>
        if isTooLarge (Constant.ofDigits radix digits) then .error .tooLarge else .ok .key
      | some .fraction, some .imaginary => .ok .key
      | _, _ => .error .malformed
    else .error .malformed
  | tree =>
    match signedNumber? tree with
    | some _ => .ok .key
    | none => .error .malformed

/-- A key must be able to be one. -/
def Meaning.checkKey : Meaning → Except Refusal Unit
  | .key => .ok ()
  | .unhashable type => .error (.unhashable type)

mutual

/-- What a tree denotes. -/
def meaning : Tree → Except Refusal Meaning
  | .node (.constant _) _ => .ok .key
  | .node .tuple parts => tupleMeaning .key parts
  | .node .set parts => do
    checkElements parts
    return .unhashable "set"
  | .node .call [.node (.name name) _] =>
    if name = "set" then .ok (.unhashable "set") else .error .malformed
  | .node .dictionary parts => do
    checkPairs parts
    return .unhashable "dict"
  | tree => checkNumber tree

/-- What a tuple denotes that has more parts: it is a key if all its parts are. -/
def tupleMeaning (found : Meaning) : List Tree → Except Refusal Meaning
  | [] => .ok found
  | part :: rest => do
    let next ← meaning part
    tupleMeaning (if found = .key then next else found) rest

/-- Checks the elements of a set. -/
def checkElements : List Tree → Except Refusal Unit
  | [] => .ok ()
  | part :: rest => do
    (← meaning part).checkKey
    checkElements rest

/-- Checks the pairs of a dictionary.  The value of a pair is looked at before its key is used. -/
def checkPairs : List Tree → Except Refusal Unit
  | [] => .ok ()
  | .node .pair [key, value] :: rest => do
    let keyMeaning ← meaning key
    let _ ← meaning value
    keyMeaning.checkKey
    checkPairs rest
  | _ :: _ => .error .missingKey

end

/-- The depth up to which the forms of a literal may be nested. -/
def maxNesting : Nat := 2940

/-- Checks that a tree denotes something. -/
def checkTree (tree : Tree) : Except Refusal Unit :=
  if tree.isDeeperThan maxNesting then .error .tooDeep
  else do
    let _ ← meaning tree

end BoundedVars.Markup.Literal
