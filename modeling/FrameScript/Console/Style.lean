import FrameScript.Text.Blank
import FrameScript.Text.Case
import FrameScript.Text.Numeral

/-!
# Names of styles

A style is named by words in any order: attributes, which a word before them may take back, a
colour, a colour for the background, and a link. `Style.normal` is the one spelling that all names
of a style share; what names no style is only put into lower case.
-/

namespace FrameScript.Console

/-- The names of colours. -/
def colourNames : String := "
  black red green yellow blue magenta cyan white bright_black bright_red bright_green bright_yellow
  bright_blue bright_magenta bright_cyan bright_white grey0 gray0 navy_blue dark_blue blue3 blue1
  dark_green deep_sky_blue4 dodger_blue3 dodger_blue2 green4 spring_green4 turquoise4
  deep_sky_blue3 dodger_blue1 green3 spring_green3 dark_cyan light_sea_green deep_sky_blue2
  deep_sky_blue1 spring_green2 cyan3 dark_turquoise turquoise2 green1 spring_green1
  medium_spring_green cyan2 cyan1 dark_red deep_pink4 purple4 purple3 blue_violet orange4 grey37
  gray37 medium_purple4 slate_blue3 royal_blue1 chartreuse4 dark_sea_green4 pale_turquoise4
  steel_blue steel_blue3 cornflower_blue chartreuse3 cadet_blue sky_blue3 steel_blue1 pale_green3
  sea_green3 aquamarine3 medium_turquoise chartreuse2 sea_green2 sea_green1 aquamarine1
  dark_slate_gray2 dark_magenta dark_violet purple light_pink4 plum4 medium_purple3 slate_blue1
  yellow4 wheat4 grey53 gray53 light_slate_grey light_slate_gray medium_purple light_slate_blue
  dark_olive_green3 dark_sea_green light_sky_blue3 sky_blue2 dark_sea_green3 dark_slate_gray3
  sky_blue1 chartreuse1 light_green pale_green1 dark_slate_gray1 red3 medium_violet_red magenta3
  dark_orange3 indian_red hot_pink3 medium_orchid3 medium_orchid medium_purple2 dark_goldenrod
  light_salmon3 rosy_brown grey63 gray63 medium_purple1 gold3 dark_khaki navajo_white3 grey69
  gray69 light_steel_blue3 light_steel_blue yellow3 dark_sea_green2 light_cyan3 light_sky_blue1
  green_yellow dark_olive_green2 dark_sea_green1 pale_turquoise1 deep_pink3 magenta2 hot_pink2
  orchid medium_orchid1 orange3 light_pink3 pink3 plum3 violet light_goldenrod3 tan misty_rose3
  thistle3 plum2 khaki3 light_goldenrod2 light_yellow3 grey84 gray84 light_steel_blue1 yellow2
  dark_olive_green1 honeydew2 light_cyan1 red1 deep_pink2 deep_pink1 magenta1 orange_red1
  indian_red1 hot_pink dark_orange salmon1 light_coral pale_violet_red1 orchid2 orchid1 orange1
  sandy_brown light_salmon1 light_pink1 pink1 plum1 gold1 navajo_white1 misty_rose1 thistle1
  yellow1 light_goldenrod1 khaki1 wheat1 cornsilk1 grey100 gray100 grey3 gray3 grey7 gray7 grey11
  gray11 grey15 gray15 grey19 gray19 grey23 gray23 grey27 gray27 grey30 gray30 grey35 gray35 grey39
  gray39 grey42 gray42 grey46 gray46 grey50 gray50 grey54 gray54 grey58 gray58 grey62 gray62 grey66
  gray66 grey70 gray70 grey74 gray74 grey78 gray78 grey82 gray82 grey85 gray85 grey89 gray89 grey93
  gray93"

/-- The colours by name. -/
def colours : List Text :=
  ((colourNames.splitOn "\n").flatMap fun line => Text.split ' ' line.toList).filter (!·.isEmpty)

/-- The attributes, each with the words for it, the name first, in the order in which a normal name
has them. -/
def attributes : List (List Text) := [
  ["bold".toList, "b".toList], ["dim".toList, "d".toList], ["italic".toList, "i".toList],
  ["underline".toList, "u".toList], ["blink".toList], ["blink2".toList],
  ["reverse".toList, "r".toList], ["conceal".toList, "c".toList], ["strike".toList, "s".toList],
  ["underline2".toList, "uu".toList], ["frame".toList], ["encircle".toList],
  ["overline".toList, "o".toList]]

/-- A style: the attributes by name that are set or taken back, the latest first, and what else
there is. -/
structure Style where
  set : List (Text × Bool)
  colour : Option Text
  background : Option Text
  link : Option Text

namespace Style

/-- Why a part of a colour is no number: it is missing, or it has too many digits. -/
inductive PartFault where
  | missing
  | tooLong (digits : Nat)
  deriving DecidableEq

/-- The wording of a fault in a part of a colour. -/
def PartFault.message : PartFault → String
  | missing => "invalid literal for int() with base 10: ''"
  | tooLong digits => Numeral.tooLongMessage digits

/-- Why words name no style. A part of a colour that is no number is a fault of its own. -/
inductive Fault where
  | unknown
  | part (fault : PartFault)
  deriving DecidableEq

/-- The style of which nothing is known. -/
def plain : Style :=
  ⟨[], none, none, none⟩

/-- The name of the attribute that a word stands for. -/
def attribute? (word : Text) : Option Text :=
  (attributes.find? (·.contains word)).bind List.head?

/-! ## Colours -/

/-- The greatest number that a colour or a part of one can have. -/
def greatestColour : Nat := 255

/-- What stands in brackets after a name. -/
def argument? (name : String) (word : Text) : Option Text :=
  match Text.after? (name.toList ++ ['(']) word with
  | some s => if s.getLast? = some ')' then some s.dropLast else none
  | none => none

/-- Whether a word is a number sign and six hexadecimal digits. -/
def isHexColour : Text → Bool
  | '#' :: s => s.length = 6 && s.all fun c => c.isDigit || ('a' ≤ c && c ≤ 'f')
  | _ => false

/-- A part of a colour that is written in digits. -/
def readPart (s : Text) : Except Fault Nat :=
  match Numeral.readNat s with
  | .value n => .ok n
  | .other => .error (.part .missing)
  | .tooLong digits => .error (.part (.tooLong digits))

/-- Whether three numbers, as they are written between commas, make a colour. -/
def isMixed (s : Text) : Except Fault Bool :=
  let parts := Text.split ',' s
  if s.isEmpty || !s.all (fun c => Text.isDigit c || c == ',') || parts.length ≠ 3 then .ok false
  else (parts.mapM readPart).map (·.all (· ≤ greatestColour))

/-- Whether a word in lower case names a colour. -/
def isColour (word : Text) : Except Fault Bool :=
  if word = "default".toList || colours.contains word || isHexColour word then .ok true
  else
    match argument? "color" word, argument? "rgb" word with
    | some digits, _ =>
      .ok (1 ≤ digits.length && digits.length ≤ 3 && digits.all Char.isDigit
        && Numeral.ofDigits (digits.filterMap Text.digit?) ≤ greatestColour)
    | _, some parts => isMixed parts
    | _, _ => .ok false

/-- A colour, in lower case. -/
def readColour (word : Text) : Except Fault Text := do
  let word := Text.lower word
  if ← isColour word then pure word else throw .unknown

/-! ## Names -/

/-- A style with what further words say. -/
def readWords (style : Style) : List Text → Except Fault Style
  | [] => .ok style
  | word :: rest =>
    let lowered := Text.lower word
    if lowered = "on".toList then
      match rest with
      | [] => .error .unknown
      | next :: rest => do
        readWords { style with background := some (← readColour next) } rest
    else if lowered = "not".toList then
      match rest with
      | [] => .error .unknown
      | next :: rest =>
        match attribute? next with
        | none => .error .unknown
        | some name => readWords { style with set := (name, false) :: style.set } rest
    else if lowered = "link".toList then
      match rest with
      | [] => .error .unknown
      | next :: rest => readWords { style with link := some next } rest
    else
      match attribute? lowered with
      | some name => readWords { style with set := (name, true) :: style.set } rest
      | none => do
        readWords { style with colour := some (← readColour word) } rest

/-- The words of a text. -/
def words (s : Text) : List Text :=
  (Text.split ' ' (s.map fun c => if Text.isBlank c then ' ' else c)).filter (!·.isEmpty)

/-- The style that a name means. -/
def read (name : Text) : Except Fault Style :=
  if Text.trim name = "none".toList then .ok plain else readWords plain (words name)

/-- The words of a style in normal order. -/
def text (style : Style) : Text :=
  let known := (attributes.filterMap List.head?).filterMap fun name =>
    (style.set.lookup name).map fun b => if b then name else "not ".toList ++ name
  let all := known ++ style.colour.toList
    ++ (style.background.map ("on ".toList ++ ·)).toList
    ++ (style.link.map ("link ".toList ++ ·)).toList
  if all.isEmpty then "none".toList else Text.join [' '] all

/-- The normal name of a style; any other name in lower case, without blanks around it. -/
def normal (name : Text) : Except PartFault Text :=
  match read name with
  | .ok style => .ok style.text
  | .error .unknown => .ok (Text.lower (Text.trim name))
  | .error (.part fault) => .error fault

/-- What is wrong with the colours in words for a style, as far as they are read. -/
def partFault? (words : Text) : Option PartFault :=
  match read words with
  | .error (.part fault) => some fault
  | _ => none

end Style

end FrameScript.Console
