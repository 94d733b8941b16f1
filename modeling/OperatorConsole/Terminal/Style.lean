import OperatorConsole.Number.Numeral
import OperatorConsole.Text.Blank
import OperatorConsole.Text.Lines
import OperatorConsole.Text.LowerCase
import OperatorConsole.Text.Percent

/-!
Names of styles. A style is named by words: attributes, which a word before them can deny, a colour,
a colour of the ground, and a link. Two names of one style have one normal name, in which the words
stand in a fixed order; a text that names no style is compared in small letters.
-/
namespace OperatorConsole.Terminal

/-! ### Colours -/

/-- The colours that have names. -/
def colourNames : List String := ["default"] ++ ("
black red green yellow blue magenta cyan white bright_black bright_red bright_green bright_yellow
bright_blue bright_magenta bright_cyan bright_white grey0 gray0 navy_blue dark_blue blue3 blue1
dark_green deep_sky_blue4 dodger_blue3 dodger_blue2 green4 spring_green4 turquoise4 deep_sky_blue3
dodger_blue1 green3 spring_green3 dark_cyan light_sea_green deep_sky_blue2 deep_sky_blue1
spring_green2 cyan3 dark_turquoise turquoise2 green1 spring_green1 medium_spring_green cyan2 cyan1
dark_red deep_pink4 purple4 purple3 blue_violet orange4 grey37 gray37 medium_purple4 slate_blue3
royal_blue1 chartreuse4 dark_sea_green4 pale_turquoise4 steel_blue steel_blue3 cornflower_blue
chartreuse3 cadet_blue sky_blue3 steel_blue1 pale_green3 sea_green3 aquamarine3 medium_turquoise
chartreuse2 sea_green2 sea_green1 aquamarine1 dark_slate_gray2 dark_magenta dark_violet purple
light_pink4 plum4 medium_purple3 slate_blue1 yellow4 wheat4 grey53 gray53 light_slate_grey
light_slate_gray medium_purple light_slate_blue dark_olive_green3 dark_sea_green light_sky_blue3
sky_blue2 dark_sea_green3 dark_slate_gray3 sky_blue1 chartreuse1 light_green pale_green1
dark_slate_gray1 red3 medium_violet_red magenta3 dark_orange3 indian_red hot_pink3 medium_orchid3
medium_orchid medium_purple2 dark_goldenrod light_salmon3 rosy_brown grey63 gray63 medium_purple1
gold3 dark_khaki navajo_white3 grey69 gray69 light_steel_blue3 light_steel_blue yellow3
dark_sea_green2 light_cyan3 light_sky_blue1 green_yellow dark_olive_green2 dark_sea_green1
pale_turquoise1 deep_pink3 magenta2 hot_pink2 orchid medium_orchid1 orange3 light_pink3 pink3
plum3 violet light_goldenrod3 tan misty_rose3 thistle3 plum2 khaki3 light_goldenrod2 light_yellow3
grey84 gray84 light_steel_blue1 yellow2 dark_olive_green1 honeydew2 light_cyan1 red1 deep_pink2
deep_pink1 magenta1 orange_red1 indian_red1 hot_pink dark_orange salmon1 light_coral
pale_violet_red1 orchid2 orchid1 orange1 sandy_brown light_salmon1 light_pink1 pink1 plum1 gold1
navajo_white1 misty_rose1 thistle1 yellow1 light_goldenrod1 khaki1 wheat1 cornsilk1 grey100
gray100 grey3 gray3 grey7 gray7 grey11 gray11 grey15 gray15 grey19 gray19 grey23 gray23 grey27
gray27 grey30 gray30 grey35 gray35 grey39 gray39 grey42 gray42 grey46 gray46 grey50 gray50 grey54
gray54 grey58 gray58 grey62 gray62 grey66 gray66 grey70 gray70 grey74 gray74 grey78 gray78 grey82
gray82 grey85 gray85 grey89 gray89 grey93 gray93
".splitToList Char.isWhitespace).filter (· != "")

/-- What is wrong with a name of a style: a colour is mixed of something that is no number. -/
structure ColourFault where
  part : List Char
  deriving DecidableEq, Repr

/-- The text is between two others, and what it is. -/
def between? (start ending : String) (cs : List Char) : Option (List Char) :=
  if start.toList.isPrefixOf cs && ending.toList.isSuffixOf cs &&
      start.length + ending.length ≤ cs.length then
    some ((cs.drop start.length).take (cs.length - start.length - ending.length))
  else none

/-- A part of a mixed colour: at most 255. -/
def isShade (part : List Char) : Except ColourFault Bool :=
  match Numeral.readWhole part with
  | .ok n => .ok (n ≤ 255)
  | .error _ => .error ⟨part⟩

/-- The word, in small letters, names a colour: by its name, by six hexadecimal digits, by a number
or by three shades. -/
def isColour (word : List Char) : Except ColourFault Bool :=
  if colourNames.contains (String.ofList word) then .ok true
  else match word, between? "color(" ")" word, between? "rgb(" ")" word with
    | '#' :: digits, _, _ =>
      .ok (digits.length == 6 && digits.all fun c => (Text.Percent.digitValue? c).isSome)
    | _, some number, _ =>
      .ok (number != [] && number.length ≤ 3 && number.all (·.isDigit) && Numeral.natOf number ≤ 255)
    | _, none, some shades =>
      if shades == [] || !shades.all fun c => Text.isDigit c || Text.isBlank c || c == ',' then .ok false
      else match Text.splitAt ',' shades with
        | [red, green, blue] => do
          let red ← isShade red
          let green ← isShade green
          let blue ← isShade blue
          return red && green && blue
        | _ => .ok false
    | _, _, _ => .ok false

/-! ### Styles -/

/-- The attributes in the order of a normal name, each with the words for it. -/
def attributeWords : List (String × List String) := [
  ("bold", ["bold", "b"]), ("dim", ["dim", "d"]), ("italic", ["italic", "i"]),
  ("underline", ["underline", "u"]), ("blink", ["blink"]), ("blink2", ["blink2"]),
  ("reverse", ["reverse", "r"]), ("conceal", ["conceal", "c"]), ("strike", ["strike", "s"]),
  ("underline2", ["underline2", "uu"]), ("frame", ["frame"]), ("encircle", ["encircle"]),
  ("overline", ["overline", "o"])]

/-- The attribute that a word means. -/
def attribute? (word : List Char) : Option String :=
  (attributeWords.find? fun (_, words) => words.contains (String.ofList word)).map (·.1)

/-- A style: attributes that are asserted or denied, colours and a link. -/
structure Style where
  attributes : List (String × Bool)
  colour : Option (List Char)
  ground : Option (List Char)
  link : Option (List Char)
  deriving DecidableEq, Repr

namespace Style

/-- The style that says nothing. -/
def plain : Style := ⟨[], none, none, none⟩

/-- The style with an attribute; what was said of it last counts. -/
def withAttribute (s : Style) (name : String) (holds : Bool) : Style :=
  { s with attributes := (name, holds) :: s.attributes }

/-- The style of words that come after a style; nothing if they name none. -/
def ofWords (s : Style) : List (List Char) → Except ColourFault (Option Style)
  | [] => .ok (some s)
  | written :: rest => do
    let word := Text.lower written
    match String.ofList word, rest with
    | "on", colour :: rest =>
      let name := Text.lower colour
      if ← isColour name then ofWords { s with ground := some name } rest else return none
    | "not", name :: rest =>
      match attribute? name with
      | some found => ofWords (s.withAttribute found false) rest
      | none => return none
    | "link", target :: rest => ofWords { s with link := some target } rest
    | "on", [] | "not", [] | "link", [] => return none
    | _, rest =>
      match attribute? word with
      | some found => ofWords (s.withAttribute found true) rest
      | none => if ← isColour word then ofWords { s with colour := some word } rest else return none

/-- The words of a style in their order. -/
def words (s : Style) : List (List Char) :=
  (attributeWords.filterMap fun (name, _) => (s.attributes.lookup name).map fun holds =>
    (if holds then name else "not " ++ name).toList) ++
    s.colour.toList ++ (s.ground.map ("on ".toList ++ ·)).toList ++
    (s.link.map ("link ".toList ++ ·)).toList

/-- The name of the style that says nothing. -/
def plainName : List Char := "none".toList

/-- The normal name of a style. -/
def name (s : Style) : List Char :=
  match s.words with
  | [] => plainName
  | words => [' '].intercalate words

/-- The normal name of what a text names. -/
def normalName (text : List Char) : Except ColourFault (List Char) := do
  if Text.strip text == plainName then return plainName
  match ← ofWords plain (Text.words text) with
  | some style => return style.name
  | none => return Text.lower (Text.strip text)

end Style

end OperatorConsole.Terminal
