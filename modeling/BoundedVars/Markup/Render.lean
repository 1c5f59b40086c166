import BoundedVars.Markup.Handler
import BoundedVars.Markup.Style
import BoundedVars.Markup.Tag

/-!
# Closing tags need open ones

Rendering a text walks through its tags.  A tag whose name starts with `/` closes: the bare `[/]`
the tag opened last, `[/name]` the last open tag of that name.  Every other tag opens, whatever
its name, and may stay open.  The name of a tag ends at the first `=`; what follows are its
parameters.  A tag whose name starts with `@` attaches a handler, and its parameters are read when
it is closed.

A closing tag that finds nothing to close is a fault, and so are a colour channel that is no
numeral and handler parameters that cannot be read; nothing else is.
-/

namespace BoundedVars.Markup

/-- What can be wrong with a text as markup.  Positions count characters from the start. -/
inductive Fault where
  | nothingToClose (position : Nat)
  | notOpen (content : String) (position : Nat)
  | channel (fault : Numeral.Fault)
  | handler (fault : Handler.Fault)
  deriving Repr, DecidableEq

/-- The wording of a fault. -/
def Fault.message : Fault → String
  | nothingToClose position =>
    "closing tag '[/]' at position " ++ decimal position ++ " has nothing to close"
  | notOpen content position =>
    "closing tag '[" ++ content ++ "]' at position " ++ decimal position
      ++ " doesn't match any open tag"
  | channel fault => fault.message
  | handler fault => fault.message

/-- A tag that is open: its name as it is compared, and its parameters. -/
structure OpenTag where
  name : String
  parameters : List Char
  deriving Repr, DecidableEq

/-- The name of a tag as it is compared. -/
def tagName (name : List Char) : Except Fault String :=
  (canonicalName name).mapError .channel

/-- Closes a tag: a handler needs parameters that can be read. -/
def OpenTag.close (tag : OpenTag) : Except Fault Unit :=
  if tag.name.toList.head? == some '@' && !tag.parameters.isEmpty then
    (Handler.check tag.parameters).mapError .handler
  else .ok ()

/-- Splits the content of a tag into its name and its parameters. -/
def splitContent (content : List Char) : List Char × List Char :=
  (content.takeWhile (· != '='), (content.dropWhile (· != '=')).drop 1)

/-- The tags still open, the latest first, after one more tag. -/
def stepTag (openTags : List OpenTag) (position : Nat) (content : List Char) :
    Except Fault (List OpenTag) :=
  match splitContent content with
  | ('/' :: name, _) =>
    if (Text.trim name).isEmpty then
      match openTags with
      | [] => throw (.nothingToClose position)
      | tag :: rest => do
        tag.close
        return rest
    else do
      let name ← tagName (Text.trim name)
      match openTags.find? (·.name == name) with
      | none => throw (.notOpen (String.ofList content) position)
      | some tag => do
        tag.close
        return openTags.eraseP (·.name == name)
  | (name, parameters) => do return ⟨← tagName name, parameters⟩ :: openTags

/-- Walks through pieces, the first of which starts at `position`. -/
def renderFrom (openTags : List OpenTag) (position : Nat) : List Piece → Except Fault Unit
  | [] => .ok ()
  | .plain _ :: rest => renderFrom openTags (position + 1) rest
  | .tag slashes content :: rest => do
    let next := position + slashes + content.length + 2
    if slashes % 2 = 1 then renderFrom openTags next rest
    else
      let openTags ← stepTag openTags (position + slashes) content
      renderFrom openTags next rest

/-- The first fault of a text as markup. -/
def render (s : String) : Except Fault Unit :=
  renderFrom [] 0 (scan s.toList)

end BoundedVars.Markup
