import CodeSmells.Text.Blank
import CodeSmells.Text.Case

/-!
Names of styles. A style is named by its attributes and colours, in any order and with short names
for some attributes; two names are the same style when their canonical forms agree. A name that is
no style is compared as it is written, apart from case and the blanks around it.
-/

set_option autoImplicit false

namespace CodeSmells.Console

open Text

/-- The attributes of a style in canonical order, each with its short name where it has one. -/
def styleAttributes : List (String × Option String) :=
  [("bold", some "b"), ("dim", some "d"), ("italic", some "i"), ("underline", some "u"),
    ("blink", none), ("blink2", none), ("reverse", some "r"), ("conceal", some "c"),
    ("strike", some "s"), ("underline2", some "uu"), ("frame", none), ("encircle", none),
    ("overline", some "o")]

/-- The attribute that a word names. -/
def attribute? (word : String) : Option String :=
  (styleAttributes.find? fun (name, short) => name == word || short == some word).map (·.1)

/-- The names of colours, divided by blanks. -/
def colourNames : String :=
  "aquamarine1 aquamarine3 black blue blue1 blue3 blue_violet bright_black bright_blue
    bright_cyan bright_green bright_magenta bright_red bright_white bright_yellow cadet_blue
    chartreuse1 chartreuse2 chartreuse3 chartreuse4 cornflower_blue cornsilk1 cyan cyan1 cyan2
    cyan3 dark_blue dark_cyan dark_goldenrod dark_green dark_khaki dark_magenta
    dark_olive_green1 dark_olive_green2 dark_olive_green3 dark_orange dark_orange3 dark_red
    dark_sea_green dark_sea_green1 dark_sea_green2 dark_sea_green3 dark_sea_green4
    dark_slate_gray1 dark_slate_gray2 dark_slate_gray3 dark_turquoise dark_violet deep_pink1
    deep_pink2 deep_pink3 deep_pink4 deep_sky_blue1 deep_sky_blue2 deep_sky_blue3 deep_sky_blue4
    dodger_blue1 dodger_blue2 dodger_blue3 gold1 gold3 gray0 gray100 gray11 gray15 gray19 gray23
    gray27 gray3 gray30 gray35 gray37 gray39 gray42 gray46 gray50 gray53 gray54 gray58 gray62
    gray63 gray66 gray69 gray7 gray70 gray74 gray78 gray82 gray84 gray85 gray89 gray93 green
    green1 green3 green4 green_yellow grey0 grey100 grey11 grey15 grey19 grey23 grey27 grey3
    grey30 grey35 grey37 grey39 grey42 grey46 grey50 grey53 grey54 grey58 grey62 grey63 grey66
    grey69 grey7 grey70 grey74 grey78 grey82 grey84 grey85 grey89 grey93 honeydew2 hot_pink
    hot_pink2 hot_pink3 indian_red indian_red1 khaki1 khaki3 light_coral light_cyan1 light_cyan3
    light_goldenrod1 light_goldenrod2 light_goldenrod3 light_green light_pink1 light_pink3
    light_pink4 light_salmon1 light_salmon3 light_sea_green light_sky_blue1 light_sky_blue3
    light_slate_blue light_slate_gray light_slate_grey light_steel_blue light_steel_blue1
    light_steel_blue3 light_yellow3 magenta magenta1 magenta2 magenta3 medium_orchid
    medium_orchid1 medium_orchid3 medium_purple medium_purple1 medium_purple2 medium_purple3
    medium_purple4 medium_spring_green medium_turquoise medium_violet_red misty_rose1
    misty_rose3 navajo_white1 navajo_white3 navy_blue orange1 orange3 orange4 orange_red1 orchid
    orchid1 orchid2 pale_green1 pale_green3 pale_turquoise1 pale_turquoise4 pale_violet_red1
    pink1 pink3 plum1 plum2 plum3 plum4 purple purple3 purple4 red red1 red3 rosy_brown
    royal_blue1 salmon1 sandy_brown sea_green1 sea_green2 sea_green3 sky_blue1 sky_blue2
    sky_blue3 slate_blue1 slate_blue3 spring_green1 spring_green2 spring_green3 spring_green4
    steel_blue steel_blue1 steel_blue3 tan thistle1 thistle3 turquoise2 turquoise4 violet wheat1
    wheat4 white yellow yellow1 yellow2 yellow3 yellow4"

/-- The number that some decimal digits spell; nothing when another character is among them or there
is none. -/
def decimalNumber? (cs : List Char) : Option Nat :=
  if !cs.isEmpty && cs.all Char.isDigit then
    some (cs.foldl (fun n c => 10 * n + (c.toNat - 48)) 0)
  else none

/-- The text between an opening word and a closing parenthesis. -/
def between? (opening : String) (cs : List Char) : Option (List Char) :=
  let start := opening.toList
  if start.isPrefixOf cs && cs.getLast? == some ')' then
    some ((cs.drop start.length).dropLast)
  else none

/-- Whether a word in lower case is a colour: a name, a number up to 255, or three parts. -/
def isColour (word : String) : Bool :=
  let cs := word.toList
  let isByte (ds : List Char) : Bool := (decimalNumber? ds).any (· ≤ 255)
  let isHex (c : Char) : Bool := c.isDigit || ('a' ≤ c && c ≤ 'f')
  word == "default" || (blankParts colourNames.toList).contains cs ||
    (cs.head? == some '#' && cs.length == 7 && (cs.drop 1).all isHex) ||
    (between? "color(" cs).any (fun ds => ds.length ≤ 3 && isByte ds) ||
    (between? "rgb(" cs).any fun ds =>
      let parts := ds.splitOnP (· == ',')
      parts.length == 3 && parts.all isByte

/-- A style: which attributes are set or cleared, its two colours and its link. -/
structure Style where
  attributes : List (String × Bool) := []
  colour : Option String := none
  background : Option String := none
  link : Option String := none
deriving DecidableEq, Inhabited

namespace Style

/-- Adds the words of a name to a style; nothing when one of them does not fit. -/
def read? (s : Style) : List String → Option Style
  | [] => some s
  | word :: rest =>
    match lowercase word, rest with
    | "on", colour :: rest =>
      if isColour (lowercase colour) then
        read? { s with background := some (lowercase colour) } rest
      else none
    | "not", name :: rest =>
      match attribute? name with
      | some a => read? { s with attributes := (a, false) :: s.attributes } rest
      | none => none
    | "link", target :: rest => read? { s with link := some target } rest
    | "on", [] => none
    | "not", [] => none
    | "link", [] => none
    | plain, rest =>
      match attribute? plain with
      | some a => read? { s with attributes := (a, true) :: s.attributes } rest
      | none => if isColour plain then read? { s with colour := some plain } rest else none

/-- The canonical name of a style. -/
def name (s : Style) : String :=
  let attributes := styleAttributes.filterMap fun (a, _) =>
    (s.attributes.find? fun e => e.1 == a).map fun e => if e.2 then a else "not " ++ a
  let words := attributes ++ s.colour.toList ++ (s.background.map ("on " ++ ·)).toList ++
    (s.link.map ("link " ++ ·)).toList
  if words.isEmpty then "none" else String.intercalate " " words

end Style

/-- The form of a style's name in which names are compared. -/
def styleName (cs : List Char) : String :=
  let plain := trim cs
  let words := (blankParts plain).map String.ofList
  if plain == "none".toList then "none"
  else
    match Style.read? {} words with
    | some s => s.name
    | none => String.ofList (lower plain)

end CodeSmells.Console
