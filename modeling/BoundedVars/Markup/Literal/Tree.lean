import BoundedVars.Markup.Literal.Token

/-!
# What a literal is put together from

A `Tree` is a text with its brackets and operators resolved.  Most forms of trees are no literal;
they are told apart because a complaint about a misplaced one calls it by its name
(`Tree.designation`).
-/

namespace BoundedVars.Markup.Literal

/-- A constant.  Of fractions, texts and bytes nothing but their kind is ever asked for, and the
value of an integer seldom. -/
inductive Constant where
  | none
  | truth (value : Bool)
  | ellipsis
  | integer (radix : Nat) (digits : List Char)
  | fraction
  | imaginary
  | text
  | bytes
  deriving Repr, DecidableEq

/-- The forms of trees. -/
inductive Form where
  | name (name : String)
  | constant (value : Constant)
  | formatted
  | tuple
  | set
  | dictionary
  | attribute
  | call
  | starred
  | unary (operator : String)
  | binary (operator : String)
  | connected
  | comparison (isMembership : Bool)
  | conditional
  | abstraction
  | assignment
  | yielded
  | awaited
  | generator
  | setOf
  | dictionaryOf
  | keyword
  | keywords
  | pair
  deriving Repr, DecidableEq

/-- A token, a list of trees, nothing at all, or a form with its parts. -/
inductive Tree where
  | token (token : Token)
  | list (trees : List Tree)
  | absent
  | node (form : Form) (parts : List Tree)

namespace Tree

mutual

/-- Puts the trees that a list holds, in lists of its own or not, before `found`, the last first.
A tree that is no list stands for itself, and an absent one for none. -/
def gather (found : List Tree) : Tree → List Tree
  | list trees => gatherAll found trees
  | absent => found
  | tree => tree :: found

/-- Puts the trees that several trees hold before `found`, the last first. -/
def gatherAll (found : List Tree) : List Tree → List Tree
  | [] => found
  | tree :: rest => gatherAll (gather found tree) rest

end

/-- The trees that a tree holds if it is a list; otherwise itself, unless it is absent. -/
def items (tree : Tree) : List Tree :=
  (gather [] tree).reverse

/-- The trees that several trees hold. -/
def itemsOfAll (trees : List Tree) : List Tree :=
  (gatherAll [] trees).reverse

/-- What a complaint calls a constant. -/
def constantDesignation : Constant → String
  | .none => "None"
  | .truth true => "True"
  | .truth false => "False"
  | .ellipsis => "ellipsis"
  | _ => "literal"

/-- What a complaint calls a form. -/
def formDesignation : Form → String
  | .name _ => "name"
  | .constant value => constantDesignation value
  | .formatted => "f-string expression"
  | .tuple => "tuple"
  | .set => "set display"
  | .dictionary => "dict literal"
  | .attribute => "attribute"
  | .call => "function call"
  | .starred => "starred"
  | .unary _ | .binary _ | .connected => "expression"
  | .comparison _ => "comparison"
  | .conditional => "conditional expression"
  | .abstraction => "lambda"
  | .assignment => "named expression"
  | .yielded => "yield expression"
  | .awaited => "await expression"
  | .generator => "generator expression"
  | .setOf => "set comprehension"
  | .dictionaryOf => "dict comprehension"
  | .keyword | .keywords | .pair => ""

/-- What a complaint calls a tree. -/
def designation : Tree → String
  | node form _ => formDesignation form
  | _ => ""

/-- The tree is the name of an instruction that used to be written without brackets. -/
def legacyName? : Tree → Option String
  | node (.name name) _ => if name = "print" ∨ name = "exec" then some name else none
  | _ => none

/-- The argument gives the value of a keyword, or of several at once. -/
def isKeyword : Tree → Bool
  | node .keyword _ | node .keywords _ => true
  | _ => false

/-- The argument gives the values of several keywords at once. -/
def isKeywords : Tree → Bool
  | node .keywords _ => true
  | _ => false

mutual

/-- The first part of a tree that no value can be assigned to in turn, where the tree stands
between `for` and `in`; a comparison there is a membership that has been read too far. -/
def unassignable? : Tree → Option Tree
  | node .tuple parts => firstUnassignable? parts
  | node .starred parts => firstUnassignable? parts
  | node (.comparison isMembership) parts =>
    if isMembership then
      match parts with
      | [] => none
      | left :: _ => unassignable? left
    else none
  | node (.name _) _ => none
  | node .attribute _ => none
  | tree => some tree

/-- The first part of several trees that no value can be assigned to in turn. -/
def firstUnassignable? : List Tree → Option Tree
  | [] => none
  | tree :: rest => (unassignable? tree).or (firstUnassignable? rest)

end

/-- More than `bound` forms of a tree are nested in each other; a pair is a part of its
dictionary. -/
def isDeeperThan (bound : Nat) (tree : Tree) : Bool :=
  match bound with
  | 0 => true
  | bound + 1 =>
    match tree with
    | node _ parts => parts.any fun
      | node .pair parts => parts.any (isDeeperThan bound)
      | part => isDeeperThan bound part
    | _ => false

end Tree

end BoundedVars.Markup.Literal
