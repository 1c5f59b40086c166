/-!
# Passing over text

A `Cut` divides a text in two: how many characters have been passed, and what is left.
-/

namespace BoundedVars.Markup.Literal

/-- What is left of a text, and how many characters have been passed before it. -/
structure Cut where
  passed : Nat
  rest : List Char
  deriving Repr, DecidableEq

namespace Cut

/-- The next character. -/
def head? (cut : Cut) : Option Char :=
  cut.rest.head?

/-- The next character satisfies `p`. -/
def startsWith (p : Char → Bool) (cut : Cut) : Bool :=
  cut.rest.head?.any p

/-- Passes over a number of characters. -/
def skip (count : Nat) (cut : Cut) : Cut :=
  ⟨cut.passed + count, cut.rest.drop count⟩

/-- What is left when nothing has been passed yet. -/
def ofList (cs : List Char) : Cut :=
  ⟨0, cs⟩

end Cut

end BoundedVars.Markup.Literal
