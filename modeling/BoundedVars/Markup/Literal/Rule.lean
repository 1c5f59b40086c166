import BoundedVars.Markup.Literal.Tree

/-!
# Rules of a grammar

A grammar says for each *phrase* the alternatives that it may be read as, the first that fits being
taken.  An alternative is a sequence of patterns, and has an outcome: the tree that is made of what
the patterns gave.

Beside the phrases there are *mistakes*: rules that fit what is commonly written wrong.  Nearly all
are tried only once a text has turned out to be unreadable, and their outcome is mostly a complaint.
-/

namespace BoundedVars.Markup.Literal

/-- The phrases. -/
inductive Phrase where
  | start
  | formattedStart
  | expressions
  | expression
  | plainExpression
  | yielded
  | starExpressions
  | starExpression
  | starNamedExpressions
  | starNamedExpression
  | assignment
  | namedExpression
  | disjunction
  | conjunction
  | inversion
  | comparison
  | comparisonRest
  | bitOr
  | bitXor
  | bitAnd
  | shift
  | sum
  | term
  | factor
  | power
  | awaited
  | primary
  | atom
  | group
  | abstraction
  | parameters
  | parameterList
  | leadingPlain
  | leadingDefault
  | starredParameters
  | keywordParameters
  | plainParameter
  | defaultParameter
  | anyParameter
  | parameter
  | defaultValue
  | quotedTexts
  | tuple
  | set
  | dictionary
  | pairs
  | pair
  | keyValue
  | clauses
  | clause
  | setOf
  | generator
  | dictionaryOf
  | arguments
  | argumentList
  | keywordArguments
  | starredArgument
  | keywordOrStarred
  | keywordOrDoubleStarred
  | targets
  | targetSequence
  | target
  | targetBody
  | targetAtom
  | targetPrimary
  deriving Repr, DecidableEq

/-- The mistakes, by the phrase in which they are made. -/
inductive Mistake where
  | ofExpression
  | ofLegacyCall
  | ofNamedExpression
  | ofGroup
  | ofParameters
  | ofStarredParameters
  | ofKeywordParameters
  | ofDefaultValue
  | ofPairs
  | ofPair
  | ofComprehension
  | ofDictionaryOf
  | ofTarget
  | ofArguments
  | ofKeywordArgument
  deriving Repr, DecidableEq

/-- The mistakes that are looked for at once, and not only in a text that cannot be read. -/
def Mistake.isImmediate : Mistake → Bool
  | ofPairs | ofPair => true
  | _ => false

/-- A phrase or a mistake. -/
inductive Rule where
  | phrase (phrase : Phrase)
  | mistake (mistake : Mistake)
  deriving Repr, DecidableEq

/-- What an alternative is a sequence of.  Words, line ends and the end of the text give no tree,
and neither does looking ahead; everything else gives one. -/
inductive Pattern where
  /-- the given word or operator -/
  | word (word : String)
  /-- one of the given words or operators; the tree is its token -/
  | oneOf (words : List String)
  /-- a token of the given kind; a reserved word is no name -/
  | kind (kind : Kind)
  /-- a soft word -/
  | softWord
  /-- a phrase -/
  | phrase (phrase : Phrase)
  /-- a mistake -/
  | mistake (mistake : Mistake)
  /-- the first of several sequences that fits -/
  | choice (sequences : List (List Pattern))
  /-- a sequence, or nothing if it does not fit -/
  | optional (sequence : List Pattern)
  /-- a sequence as often as it fits -/
  | anyNumber (sequence : List Pattern)
  /-- a sequence as often as it fits, at least once -/
  | oneOrMore (sequence : List Pattern)
  /-- a sequence as often as it fits, at least once, with commas between -/
  | separated (sequence : List Pattern)
  /-- a sequence that fits, but is not passed -/
  | ahead (sequence : List Pattern)
  /-- a sequence that does not fit -/
  | notAhead (sequence : List Pattern)

/-- What comes of an alternative that fits. -/
inductive Outcome where
  /-- the tree of the rule -/
  | tree (tree : Tree)
  /-- the rule does not fit after all, whatever alternatives it has left -/
  | nothing
  /-- a complaint -/
  | complaint (message : String)
  /-- a complaint if the last token is between brackets, and nothing otherwise -/
  | complaintInside (message : String)
  /-- the trees are the tokens of quoted texts, which belong together -/
  | quoted (tokens : List Tree)

/-- The trees of a sequence as one. -/
def Tree.ofSequence : List Tree → Tree
  | [] => .absent
  | [tree] => tree
  | trees => .list trees

/-- The outcome of an alternative that stands for its parts. -/
def Outcome.pass (trees : List Tree) : Outcome :=
  .tree (Tree.ofSequence trees)

/-- The outcome of an alternative that makes a form of its parts. -/
def Outcome.form (form : Form) (trees : List Tree) : Outcome :=
  .tree (.node form (Tree.itemsOfAll trees))

/-- One way to read a rule.  Once the first part fits, an alternative with a second part admits no
other. -/
structure Alternative where
  parts : List Pattern
  committed : List Pattern
  outcome : List Tree → Outcome

/-- What is remembered of a rule once read at some place. -/
inductive Memory where
  /-- nothing -/
  | none
  /-- what was read -/
  | kept
  /-- what was read; and the rule may begin with itself, in which case it is read again for as long
  as that reaches farther -/
  | growing
  deriving Repr, DecidableEq

/-- What a grammar says of a rule.  Within a rule that is lenient no mistake is looked for. -/
structure Definition where
  alternatives : List Alternative
  memory : Memory
  isLenient : Bool

/-- An alternative. -/
def alternative (parts : List Pattern) (outcome : List Tree → Outcome) : Alternative :=
  ⟨parts, [], outcome⟩

/-- An alternative that stands for its parts. -/
def passing (parts : List Pattern) : Alternative :=
  ⟨parts, [], Outcome.pass⟩

/-- An alternative that makes a form of its parts. -/
def forming (form : Form) (parts : List Pattern) : Alternative :=
  ⟨parts, [], Outcome.form form⟩

/-- An alternative that is a complaint. -/
def complaining (parts : List Pattern) (message : String) : Alternative :=
  ⟨parts, [], fun _ => .complaint message⟩

/-- A rule of which nothing is remembered. -/
def fresh (alternatives : List Alternative) : Definition :=
  ⟨alternatives, .none, false⟩

/-- A rule that is remembered. -/
def remembered (alternatives : List Alternative) : Definition :=
  ⟨alternatives, .kept, false⟩

/-- A rule that may begin with itself. -/
def growing (alternatives : List Alternative) : Definition :=
  ⟨alternatives, .growing, false⟩

end BoundedVars.Markup.Literal
