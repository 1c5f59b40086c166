import BoundedVars.Markup.Color
import BoundedVars.Text.Blank

/-!
# Styles, and when two tags have the same name

The name of a tag is read as a *style*: attributes (`bold`, `not italic`), a colour, a background
(`on` and a colour) and a link.  Tags match when their styles are the same, so `[b]` is closed by
`[/bold]` and `[red bold]` by `[/bold red]`.  A name that is no style is compared as text, in small
letters and without blanks around it.
-/

namespace BoundedVars.Markup

/-- The attributes, in the order in which a style lists them. -/
def attributeOrder : List String :=
  ["bold", "dim", "italic", "underline", "blink", "blink2", "reverse", "conceal", "strike",
   "underline2", "frame", "encircle", "overline"]

/-- The short names of attributes. -/
def attributeAliases : List (String × String) :=
  [("b", "bold"), ("d", "dim"), ("i", "italic"), ("u", "underline"), ("r", "reverse"),
   ("c", "conceal"), ("s", "strike"), ("uu", "underline2"), ("o", "overline")]

/-- The attribute that a word names. -/
def attribute? (word : String) : Option String :=
  if attributeOrder.contains word then some word else attributeAliases.lookup word

/-- A style: the attributes it sets or unsets, the latest first, and its colours and link. -/
structure Style where
  attributes : List (String × Bool)
  color : Option String
  background : Option String
  link : Option String

/-- The style that changes nothing. -/
def Style.plain : Style := ⟨[], none, none, none⟩

/-- Why a name is no style.  A colour channel that is no numeral is a fault of its own. -/
inductive StyleFault where
  | notAStyle
  | channel (fault : Numeral.Fault)
  deriving Repr, DecidableEq

/-- A word that has to name a colour. -/
def colorWord (word : List Char) : Except StyleFault String :=
  match color? word with
  | .ok spelling => .ok spelling
  | .error (.channel fault) => .error (.channel fault)
  | .error .notAColor => .error .notAStyle

/-- Reads the words of a style.  The word behind `on`, `not` or `link` belongs to it and keeps its
letters. -/
def Style.ofWords (style : Style) : List (List Char) → Except StyleFault Style
  | [] => .ok style
  | word :: rest =>
    let small := String.ofList (Text.lower word)
    if small = "on" then
      match rest with
      | [] => .error .notAStyle
      | next :: rest => do
        let spelling ← colorWord next
        ofWords { style with background := some spelling } rest
    else if small = "not" then
      match rest with
      | [] => .error .notAStyle
      | next :: rest =>
        match attribute? (String.ofList next) with
        | none => .error .notAStyle
        | some name => ofWords { style with attributes := (name, false) :: style.attributes } rest
    else if small = "link" then
      match rest with
      | [] => .error .notAStyle
      | next :: rest => ofWords { style with link := some (String.ofList next) } rest
    else
      match attribute? small with
      | some name => ofWords { style with attributes := (name, true) :: style.attributes } rest
      | none => do
        let spelling ← colorWord word
        ofWords { style with color := some spelling } rest

/-- The words of a style in their fixed order. -/
def Style.spelling (style : Style) : List String :=
  let attributes := attributeOrder.filterMap fun name =>
    (style.attributes.lookup name).map fun set => if set then name else "not " ++ name
  attributes ++ style.color.toList ++ (style.background.map ("on " ++ ·)).toList
    ++ (style.link.map ("link " ++ ·)).toList

/-- The form in which the names of tags are compared. -/
def canonicalName (name : List Char) : Except Numeral.Fault String :=
  let trimmed := Text.trim name
  if trimmed.isEmpty then .ok "none"
  else
    match Style.plain.ofWords (Text.words name) with
    | .ok style =>
      let words := style.spelling
      .ok (if words.isEmpty then "none" else " ".intercalate words)
    | .error .notAStyle => .ok (String.ofList (Text.lower trimmed))
    | .error (.channel fault) => .error fault

end BoundedVars.Markup
