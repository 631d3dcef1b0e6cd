import DesignTokens.Number.Digits
import DesignTokens.Text.Blank
import DesignTokens.Text.Case
import DesignTokens.Text.DecimalDigit
import DesignTokens.Text.Hex
import DesignTokens.Text.Quoted

/-!
# Colors that a terminal knows

A terminal knows colors of six hexadecimal digits, red, green and blue components,
the numbers of its palette, and the names of that palette.
-/

namespace DesignTokens.Terminal

/-- The names of the palette. -/
def colorNames : List String :=
  ["black", "red", "green", "yellow", "blue", "magenta", "cyan", "white", "bright_black",
    "bright_red", "bright_green", "bright_yellow", "bright_blue", "bright_magenta",
    "bright_cyan", "bright_white", "grey0", "gray0", "navy_blue", "dark_blue", "blue3",
    "blue1", "dark_green", "deep_sky_blue4", "dodger_blue3", "dodger_blue2", "green4",
    "spring_green4", "turquoise4", "deep_sky_blue3", "dodger_blue1", "green3",
    "spring_green3", "dark_cyan", "light_sea_green", "deep_sky_blue2", "deep_sky_blue1",
    "spring_green2", "cyan3", "dark_turquoise", "turquoise2", "green1", "spring_green1",
    "medium_spring_green", "cyan2", "cyan1", "dark_red", "deep_pink4", "purple4", "purple3",
    "blue_violet", "orange4", "grey37", "gray37", "medium_purple4", "slate_blue3",
    "royal_blue1", "chartreuse4", "dark_sea_green4", "pale_turquoise4", "steel_blue",
    "steel_blue3", "cornflower_blue", "chartreuse3", "cadet_blue", "sky_blue3",
    "steel_blue1", "pale_green3", "sea_green3", "aquamarine3", "medium_turquoise",
    "chartreuse2", "sea_green2", "sea_green1", "aquamarine1", "dark_slate_gray2",
    "dark_magenta", "dark_violet", "purple", "light_pink4", "plum4", "medium_purple3",
    "slate_blue1", "yellow4", "wheat4", "grey53", "gray53", "light_slate_grey",
    "light_slate_gray", "medium_purple", "light_slate_blue", "dark_olive_green3",
    "dark_sea_green", "light_sky_blue3", "sky_blue2", "dark_sea_green3",
    "dark_slate_gray3", "sky_blue1", "chartreuse1", "light_green", "pale_green1",
    "dark_slate_gray1", "red3", "medium_violet_red", "magenta3", "dark_orange3",
    "indian_red", "hot_pink3", "medium_orchid3", "medium_orchid", "medium_purple2",
    "dark_goldenrod", "light_salmon3", "rosy_brown", "grey63", "gray63", "medium_purple1",
    "gold3", "dark_khaki", "navajo_white3", "grey69", "gray69", "light_steel_blue3",
    "light_steel_blue", "yellow3", "dark_sea_green2", "light_cyan3", "light_sky_blue1",
    "green_yellow", "dark_olive_green2", "dark_sea_green1", "pale_turquoise1",
    "deep_pink3", "magenta2", "hot_pink2", "orchid", "medium_orchid1", "orange3",
    "light_pink3", "pink3", "plum3", "violet", "light_goldenrod3", "tan", "misty_rose3",
    "thistle3", "plum2", "khaki3", "light_goldenrod2", "light_yellow3", "grey84", "gray84",
    "light_steel_blue1", "yellow2", "dark_olive_green1", "honeydew2", "light_cyan1",
    "red1", "deep_pink2", "deep_pink1", "magenta1", "orange_red1", "indian_red1",
    "hot_pink", "dark_orange", "salmon1", "light_coral", "pale_violet_red1", "orchid2",
    "orchid1", "orange1", "sandy_brown", "light_salmon1", "light_pink1", "pink1", "plum1",
    "gold1", "navajo_white1", "misty_rose1", "thistle1", "yellow1", "light_goldenrod1",
    "khaki1", "wheat1", "cornsilk1", "grey100", "gray100", "grey3", "gray3", "grey7",
    "gray7", "grey11", "gray11", "grey15", "gray15", "grey19", "gray19", "grey23",
    "gray23", "grey27", "gray27", "grey30", "gray30", "grey35", "gray35", "grey39",
    "gray39", "grey42", "gray42", "grey46", "gray46", "grey50", "gray50", "grey54",
    "gray54", "grey58", "gray58", "grey62", "gray62", "grey66", "gray66", "grey70",
    "gray70", "grey74", "gray74", "grey78", "gray78", "grey82", "gray82", "grey85",
    "gray85", "grey89", "gray89", "grey93", "gray93"]

/-- Why a component is not read as a number. -/
inductive ComponentFault where
  | notANumber (text : List Char)
  | tooManyDigits (count : Nat)
  deriving DecidableEq, Repr

/-- The most characters of a quoted component that a message shows. -/
def shownComponent : Nat := 200

/-- The wording of a fault. -/
def ComponentFault.message : ComponentFault → String
  | .notANumber text =>
    "invalid literal for int() with base 10: " ++
      String.ofList ((Text.quoted (String.ofList text)).toList.take shownComponent)
  | .tooManyDigits count => (Number.DigitFault.inText count).message

/-- Whether a terminal knows a color, or what in it cannot be read as a number. -/
inductive ColorReading where
  | known
  | unknown
  | badComponent (fault : ComponentFault)
  deriving DecidableEq, Repr

/-- The text between a start and a closing parenthesis, if a text has that form. -/
def enclosed? (start : String) (text : List Char) : Option (List Char) :=
  if start.toList.isPrefixOf text && text.getLast? = some ')' then
    some ((text.drop start.length).dropLast)
  else none

/-- A character that may stand between the parentheses of components. -/
def isComponentChar (c : Char) : Bool :=
  Text.isDecimalDigit c || Text.isBlank c || c == ','

/-- The number that a component writes between white space. -/
def readComponent (component : List Char) : Except ComponentFault Nat :=
  let digits := Text.dropEnds Text.isPadding component
  let count := (digits.takeWhile Text.isDecimalDigit).length
  if Number.digitLimit < count then .error (.tooManyDigits count)
  else if digits.isEmpty || count < digits.length then .error (.notANumber component)
  else .ok (Text.decimalValue digits)

/-- Three components up to 255 that commas separate. -/
def readComponents (inside : List Char) : ColorReading :=
  let components := inside.splitOn ','
  if components.length ≠ 3 then .unknown
  else
    match components.mapM readComponent with
    | .error fault => .badComponent fault
    | .ok values => if values.all fun n => n ≤ 255 then .known else .unknown

/-- How a terminal reads a color. -/
def readColor (value : String) : ColorReading :=
  let text := Text.dropEnds Text.isBlank (Text.lower value.toList)
  let name := String.ofList text
  if name = "default" || colorNames.contains name then .known
  else
    match text with
    | '#' :: digits =>
      if digits.length = 6 && digits.all Text.isHexDigit then .known else .unknown
    | _ =>
      match enclosed? "color(" text, enclosed? "rgb(" text with
      | some inside, _ =>
        if 1 ≤ inside.length && inside.length ≤ 3 && inside.all Char.isDigit &&
            Number.digitsValue inside ≤ 255 then .known
        else .unknown
      | none, some inside =>
        if !inside.isEmpty && inside.all isComponentChar then readComponents inside
        else .unknown
      | none, none => .unknown

/-- A block in a color: its text and the style that it is printed in. A color that the
terminal does not know gives an empty block. -/
structure Swatch where
  text : String
  style : String
  deriving DecidableEq, Repr

/-- The block of a color value, or why a component of it is not read as a number. -/
def swatch (value : String) : Except ComponentFault Swatch :=
  match readColor value with
  | .known => .ok ⟨"      ", "on " ++ value⟩
  | .unknown => .ok ⟨"", ""⟩
  | .badComponent fault => .error fault

end DesignTokens.Terminal
