/-!
# Tokens of a literal

The parameters of a handler are a literal: numbers, quoted texts and names of constants, put
together with brackets and operators.  A text is cut into tokens before anything is made of it.
Each token remembers the line it begins on and how many brackets are open after it.
-/

namespace BoundedVars.Markup.Literal

/-- The kinds of tokens. -/
inductive Kind where
  | name
  | number
  | quoted
  | operator
  | newline
  | indent
  | dedent
  | ending
  deriving Repr, DecidableEq

/-- A token: its kind, the characters it is written with, the line it begins on, counted from one,
and the number of brackets open after it. -/
structure Token where
  kind : Kind
  text : String
  line : Nat
  depth : Nat
  deriving Repr, DecidableEq

/-- The words that are no names. -/
def reservedWords : List String :=
  ["False", "None", "True", "and", "as", "assert", "async", "await", "break", "class", "continue",
   "def", "del", "elif", "else", "except", "finally", "for", "from", "global", "if", "import", "in",
   "is", "lambda", "nonlocal", "not", "or", "pass", "raise", "return", "try", "while", "with",
   "yield"]

/-- The words that are names in most places, and that no complaint about names begins with. -/
def softWords : List String :=
  ["_", "case", "match"]

namespace Token

/-- The token is the given word or operator. -/
def isWord (word : String) (token : Token) : Bool :=
  (token.kind == .name || token.kind == .operator) && token.text == word

/-- The token is a name of the writer's choice. -/
def isName (token : Token) : Bool :=
  token.kind == .name && !reservedWords.contains token.text

/-- The token is a soft word, or the beginning of one. -/
def isSoftWord (token : Token) : Bool :=
  token.isName && softWords.any fun word => token.text.toList.isPrefixOf word.toList

end Token

end BoundedVars.Markup.Literal
