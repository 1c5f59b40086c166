import BoundedVars.Number.Numeral
import BoundedVars.Text.Case.Lower

/-!
# Colours of a markup style

A colour is named (`red`, `dark_orange3`, `grey37`, `default`), numbered (`color(208)`), or given by
its three channels (`#ff8700`, `rgb(255,135,0)`).  `Markup.color?` reads one, in small letters,
and answers its spelling.
-/

namespace BoundedVars.Markup

/-- The named colours that are not shades of grey. -/
def colorNames : List String := [
   "black", "red", "green", "yellow", "blue", "magenta", "cyan", "white", "bright_black",
   "bright_red", "bright_green", "bright_yellow", "bright_blue", "bright_magenta",
   "bright_cyan", "bright_white", "navy_blue", "dark_blue", "blue3", "blue1", "dark_green",
   "deep_sky_blue4", "dodger_blue3", "dodger_blue2", "green4", "spring_green4", "turquoise4",
   "deep_sky_blue3", "dodger_blue1", "green3", "spring_green3", "dark_cyan", "light_sea_green",
   "deep_sky_blue2", "deep_sky_blue1", "spring_green2", "cyan3", "dark_turquoise", "turquoise2",
   "green1", "spring_green1", "medium_spring_green", "cyan2", "cyan1", "dark_red", "deep_pink4",
   "purple4", "purple3", "blue_violet", "orange4", "medium_purple4", "slate_blue3",
   "royal_blue1", "chartreuse4", "dark_sea_green4", "pale_turquoise4", "steel_blue",
   "steel_blue3", "cornflower_blue", "chartreuse3", "cadet_blue", "sky_blue3", "steel_blue1",
   "pale_green3", "sea_green3", "aquamarine3", "medium_turquoise", "chartreuse2", "sea_green2",
   "sea_green1", "aquamarine1", "dark_slate_gray2", "dark_magenta", "dark_violet", "purple",
   "light_pink4", "plum4", "medium_purple3", "slate_blue1", "yellow4", "wheat4",
   "light_slate_grey", "light_slate_gray", "medium_purple", "light_slate_blue",
   "dark_olive_green3", "dark_sea_green", "light_sky_blue3", "sky_blue2", "dark_sea_green3",
   "dark_slate_gray3", "sky_blue1", "chartreuse1", "light_green", "pale_green1",
   "dark_slate_gray1", "red3", "medium_violet_red", "magenta3", "dark_orange3", "indian_red",
   "hot_pink3", "medium_orchid3", "medium_orchid", "medium_purple2", "dark_goldenrod",
   "light_salmon3", "rosy_brown", "medium_purple1", "gold3", "dark_khaki", "navajo_white3",
   "light_steel_blue3", "light_steel_blue", "yellow3", "dark_sea_green2", "light_cyan3",
   "light_sky_blue1", "green_yellow", "dark_olive_green2", "dark_sea_green1", "pale_turquoise1",
   "deep_pink3", "magenta2", "hot_pink2", "orchid", "medium_orchid1", "orange3", "light_pink3",
   "pink3", "plum3", "violet", "light_goldenrod3", "tan", "misty_rose3", "thistle3", "plum2",
   "khaki3", "light_goldenrod2", "light_yellow3", "light_steel_blue1", "yellow2",
   "dark_olive_green1", "honeydew2", "light_cyan1", "red1", "deep_pink2", "deep_pink1",
   "magenta1", "orange_red1", "indian_red1", "hot_pink", "dark_orange", "salmon1",
   "light_coral", "pale_violet_red1", "orchid2", "orchid1", "orange1", "sandy_brown",
   "light_salmon1", "light_pink1", "pink1", "plum1", "gold1", "navajo_white1", "misty_rose1",
   "thistle1", "yellow1", "light_goldenrod1", "khaki1", "wheat1", "cornsilk1"]

/-- The brightness of the named shades of grey, in per cent. -/
def greyLevels : List Nat :=
  [0, 3, 7, 11, 15, 19, 23, 27, 30, 35, 37, 39, 42, 46, 50, 53, 54, 58,
   62, 63, 66, 69, 70, 74, 78, 82, 84, 85, 89, 93, 100]

/-- A named colour. -/
def isColorName (s : String) : Bool :=
  s == "default" || colorNames.contains s ||
    greyLevels.any fun level => s == "grey" ++ level.repr || s == "gray" ++ level.repr

/-- Why a word names no colour: it is not of that form, or a channel is no numeral. -/
inductive ColorFault where
  | notAColor
  | channel (fault : Numeral.Fault)
  deriving Repr, DecidableEq

/-- What stands between the parentheses of a word `name(…)`. -/
def argument? (name : List Char) (word : List Char) : Option (List Char) :=
  if name.isPrefixOf word && word.getLast? == some ')' then
    match (word.drop name.length).dropLast with
    | '(' :: inner => some inner
    | _ => none
  else none

/-- The value of a channel. -/
def channelValue (digits : List Char) : Except ColorFault Nat :=
  (Numeral.ofDigits digits).mapError .channel

/-- Splits at commas. -/
def splitCommas : List Char → List (List Char)
  | [] => [[]]
  | c :: rest =>
    match splitCommas rest with
    | [] => [[c]]
    | part :: parts => if c == ',' then [] :: part :: parts else (c :: part) :: parts

/-- A small hexadecimal digit. -/
def isHexDigit (c : Char) : Bool :=
  ('0' ≤ c && c ≤ '9') || ('a' ≤ c && c ≤ 'f')

/-- Three channels between parentheses: digits of any script, none above 255. -/
def checkChannels (inner : List Char) : Except ColorFault Unit :=
  if inner.isEmpty || !inner.all fun c => c == ',' || (Text.digit? c).isSome then
    .error .notAColor
  else
    let channels := splitCommas inner
    if channels.length ≠ 3 then .error .notAColor
    else do
      let values ← channels.mapM channelValue
      if values.all (· ≤ 255) then return () else throw .notAColor

/-- The spelling of the colour that a word names. -/
def color? (word : List Char) : Except ColorFault String :=
  let small := Text.lower word
  let spelling := String.ofList small
  if isColorName spelling then .ok spelling
  else
    match small with
    | '#' :: digits =>
      if digits.length = 6 ∧ digits.all isHexDigit then .ok spelling else .error .notAColor
    | _ =>
      match argument? ['c', 'o', 'l', 'o', 'r'] small, argument? ['r', 'g', 'b'] small with
      | some inner, _ =>
        if inner.length ≤ 3 ∧ inner.all Char.isDigit then
          match Numeral.ofDigits inner with
          | .ok n => if n ≤ 255 then .ok spelling else .error .notAColor
          | .error _ => .error .notAColor
        else .error .notAColor
      | none, some inner => (checkChannels inner).map fun _ => spelling
      | none, none => .error .notAColor

end BoundedVars.Markup
