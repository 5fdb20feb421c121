import ScriptAssist.Limit
import ScriptAssist.Text.Case
import ScriptAssist.Text.Digits

/-!
# Styles

A style is written in words: kinds of emphasis, of which each may be denied, a color, a color of the
ground and a link. Styles of one effect have one normal form. Other words are kept as they are, in
lower case.
-/

namespace ScriptAssist.Layout

def colorLines : List String := [
  "black red green yellow blue magenta cyan white bright_black bright_red bright_green",
  "bright_yellow bright_blue bright_magenta bright_cyan bright_white grey0 gray0 navy_blue",
  "dark_blue blue3 blue1 dark_green deep_sky_blue4 dodger_blue3 dodger_blue2 green4 spring_green4",
  "turquoise4 deep_sky_blue3 dodger_blue1 green3 spring_green3 dark_cyan light_sea_green",
  "deep_sky_blue2 deep_sky_blue1 spring_green2 cyan3 dark_turquoise turquoise2 green1",
  "spring_green1 medium_spring_green cyan2 cyan1 dark_red deep_pink4 purple4 purple3 blue_violet",
  "orange4 grey37 gray37 medium_purple4 slate_blue3 royal_blue1 chartreuse4 dark_sea_green4",
  "pale_turquoise4 steel_blue steel_blue3 cornflower_blue chartreuse3 cadet_blue sky_blue3",
  "steel_blue1 pale_green3 sea_green3 aquamarine3 medium_turquoise chartreuse2 sea_green2",
  "sea_green1 aquamarine1 dark_slate_gray2 dark_magenta dark_violet purple light_pink4 plum4",
  "medium_purple3 slate_blue1 yellow4 wheat4 grey53 gray53 light_slate_grey light_slate_gray",
  "medium_purple light_slate_blue dark_olive_green3 dark_sea_green light_sky_blue3 sky_blue2",
  "dark_sea_green3 dark_slate_gray3 sky_blue1 chartreuse1 light_green pale_green1",
  "dark_slate_gray1 red3 medium_violet_red magenta3 dark_orange3 indian_red hot_pink3",
  "medium_orchid3 medium_orchid medium_purple2 dark_goldenrod light_salmon3 rosy_brown grey63",
  "gray63 medium_purple1 gold3 dark_khaki navajo_white3 grey69 gray69 light_steel_blue3",
  "light_steel_blue yellow3 dark_sea_green2 light_cyan3 light_sky_blue1 green_yellow",
  "dark_olive_green2 dark_sea_green1 pale_turquoise1 deep_pink3 magenta2 hot_pink2 orchid",
  "medium_orchid1 orange3 light_pink3 pink3 plum3 violet light_goldenrod3 tan misty_rose3",
  "thistle3 plum2 khaki3 light_goldenrod2 light_yellow3 grey84 gray84 light_steel_blue1 yellow2",
  "dark_olive_green1 honeydew2 light_cyan1 red1 deep_pink2 deep_pink1 magenta1 orange_red1",
  "indian_red1 hot_pink dark_orange salmon1 light_coral pale_violet_red1 orchid2 orchid1 orange1",
  "sandy_brown light_salmon1 light_pink1 pink1 plum1 gold1 navajo_white1 misty_rose1 thistle1",
  "yellow1 light_goldenrod1 khaki1 wheat1 cornsilk1 grey100 gray100 grey3 gray3 grey7 gray7",
  "grey11 gray11 grey15 gray15 grey19 gray19 grey23 gray23 grey27 gray27 grey30 gray30 grey35",
  "gray35 grey39 gray39 grey42 gray42 grey46 gray46 grey50 gray50 grey54 gray54 grey58 gray58",
  "grey62 gray62 grey66 gray66 grey70 gray70 grey74 gray74 grey78 gray78 grey82 gray82 grey85",
  "gray85 grey89 gray89 grey93 gray93"]

def colorNames : List Text :=
  colorLines.flatMap fun line => Text.words line.toList

inductive Emphasis
  | bold
  | dim
  | italic
  | underline
  | blink
  | blink2
  | reverse
  | conceal
  | strike
  | underline2
  | frame
  | encircle
  | overline
  deriving DecidableEq, Repr

namespace Emphasis

def all : List Emphasis :=
  [bold, dim, italic, underline, blink, blink2, reverse, conceal, strike, underline2, frame,
    encircle, overline]

def name : Emphasis → Text
  | bold => "bold"
  | dim => "dim"
  | italic => "italic"
  | underline => "underline"
  | blink => "blink"
  | blink2 => "blink2"
  | reverse => "reverse"
  | conceal => "conceal"
  | strike => "strike"
  | underline2 => "underline2"
  | frame => "frame"
  | encircle => "encircle"
  | overline => "overline"

def shortNames : List (Text × Emphasis) :=
  [("d", dim), ("b", bold), ("i", italic), ("u", underline), ("r", reverse), ("c", conceal),
    ("s", strike), ("uu", underline2), ("o", overline)]

def ofWord? (word : Text) : Option Emphasis :=
  match all.find? (·.name == word) with
  | some found => some found
  | none => shortNames.lookup word

end Emphasis

/-- Why words are not a style: they are unknown, or a color lacks a number where one has to be. -/
inductive StyleFault
  | unknown
  | lacksNumber
  deriving DecidableEq, Repr

namespace Color

def maximum : Nat := 255

def inside? (name word : Text) : Option Text :=
  if (name ++ ['(']).isPrefixOf word && ([')'] : Text).isSuffixOf word then
    some ((word.drop (name.length + 1)).dropLast)
  else none

def isHex : Text → Bool
  | '#' :: digits => digits.length == 6 && digits.all Text.isHexDigit
  | _ => false

def isNumbered (number : Text) : Bool :=
  !number.isEmpty && number.length ≤ 3 && number.all Char.isDigit &&
    Text.natOfDigits number ≤ maximum

def component (digits : Text) : Except StyleFault Nat :=
  if digits.isEmpty || Limit.maxDigits < digits.length then .error .lacksNumber
  else .ok (digits.foldl (fun n c => n * 10 + (Text.digitValue? c).getD 0) 0)

def checkComponents (text : Text) : Except StyleFault Unit :=
  if text.isEmpty || !text.all fun c => c == ',' || Text.isDecimalDigit c then .error .unknown
  else
    match Text.splitOn ',' text with
    | [red, green, blue] => do
      let components ← [red, green, blue].mapM component
      if components.all (· ≤ maximum) then pure () else .error .unknown
    | _ => .error .unknown

def read (word : Text) : Except StyleFault Text :=
  let color := Text.lower word
  if color = "default" || colorNames.contains color || isHex color ||
      (inside? "color" color).any isNumbered then .ok color
  else
    match inside? "rgb" color with
    | some text => (checkComponents text).map fun _ => color
    | none => .error .unknown

end Color

structure Style where
  emphases : List (Emphasis × Bool) := []
  color : Option Text := none
  ground : Option Text := none
  link : Option Text := none

namespace Style

def set (style : Style) (emphasis : Emphasis) (holds : Bool) : Style :=
  { style with emphases := (emphasis, holds) :: style.emphases }

/-- Reads words; of those that contradict each other the last ones count. -/
def readWords (style : Style) : List Text → Except StyleFault Style
  | [] => .ok style
  | word :: rest =>
    let lower := Text.lower word
    if lower = "on" then
      match rest with
      | [] => .error .unknown
      | color :: rest => do
        let color ← Color.read color
        readWords { style with ground := some color } rest
    else if lower = "not" then
      match rest with
      | [] => .error .unknown
      | name :: rest =>
        match Emphasis.ofWord? name with
        | some denied => readWords (style.set denied false) rest
        | none => .error .unknown
    else if lower = "link" then
      match rest with
      | [] => .error .unknown
      | target :: rest => readWords { style with link := some target } rest
    else
      match Emphasis.ofWord? lower with
      | some emphasis => readWords (style.set emphasis true) rest
      | none => do
        let color ← Color.read lower
        readWords { style with color := some color } rest

def read (text : Text) : Except StyleFault Style :=
  if Text.strip text = "none" then .ok {} else readWords {} (Text.words text)

def emphasisWords (style : Style) : List Text :=
  Emphasis.all.filterMap fun emphasis =>
    (style.emphases.lookup emphasis).map fun holds =>
      if holds then emphasis.name else "not " ++ emphasis.name

def text (style : Style) : Text :=
  let words := style.emphasisWords ++ style.color.toList ++
    (style.ground.map (['o', 'n', ' '] ++ ·)).toList ++
    (style.link.map (['l', 'i', 'n', 'k', ' '] ++ ·)).toList
  if words.isEmpty then "none" else [' '].intercalate words

def normalForm (words : Text) : Except StyleFault Text :=
  match read words with
  | .ok style => .ok style.text
  | .error .unknown => .ok (Text.lower (Text.strip words))
  | .error .lacksNumber => .error .lacksNumber

def isBroken (words : Text) : Bool :=
  match read words with
  | .error .lacksNumber => true
  | _ => false

end Style

end ScriptAssist.Layout
