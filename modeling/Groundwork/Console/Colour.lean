import Groundwork.Failure
import Groundwork.Text.Blank
import Groundwork.Text.Case
import Groundwork.Text.Digit

/-!
# Colours

A word means a colour if it is the name of one, a number sign with six digits of base 16, a number
as in `color(7)`, or three components as in `rgb(0,0,255)`. Numbers and components are at most 255.
-/

namespace Groundwork.Console

/-- The names of colours, with blanks between them. -/
def colourNames : String :=
  "black red green yellow blue magenta cyan white bright_black bright_red bright_green
   bright_yellow bright_blue bright_magenta bright_cyan bright_white navy_blue dark_blue blue3
   blue1 dark_green deep_sky_blue4 dodger_blue3 dodger_blue2 green4 spring_green4 turquoise4
   deep_sky_blue3 dodger_blue1 green3 spring_green3 dark_cyan light_sea_green deep_sky_blue2
   deep_sky_blue1 spring_green2 cyan3 dark_turquoise turquoise2 green1 spring_green1
   medium_spring_green cyan2 cyan1 dark_red deep_pink4 purple4 purple3 blue_violet orange4
   medium_purple4 slate_blue3 royal_blue1 chartreuse4 dark_sea_green4 pale_turquoise4 steel_blue
   steel_blue3 cornflower_blue chartreuse3 cadet_blue sky_blue3 steel_blue1 pale_green3
   sea_green3 aquamarine3 medium_turquoise chartreuse2 sea_green2 sea_green1 aquamarine1
   dark_slate_gray2 dark_magenta dark_violet purple light_pink4 plum4 medium_purple3 slate_blue1
   yellow4 wheat4 light_slate_grey light_slate_gray medium_purple light_slate_blue
   dark_olive_green3 dark_sea_green light_sky_blue3 sky_blue2 dark_sea_green3 dark_slate_gray3
   sky_blue1 chartreuse1 light_green pale_green1 dark_slate_gray1 red3 medium_violet_red
   magenta3 dark_orange3 indian_red hot_pink3 medium_orchid3 medium_orchid medium_purple2
   dark_goldenrod light_salmon3 rosy_brown medium_purple1 gold3 dark_khaki navajo_white3
   light_steel_blue3 light_steel_blue yellow3 dark_sea_green2 light_cyan3 light_sky_blue1
   green_yellow dark_olive_green2 dark_sea_green1 pale_turquoise1 deep_pink3 magenta2 hot_pink2
   orchid medium_orchid1 orange3 light_pink3 pink3 plum3 violet light_goldenrod3 tan misty_rose3
   thistle3 plum2 khaki3 light_goldenrod2 light_yellow3 light_steel_blue1 yellow2
   dark_olive_green1 honeydew2 light_cyan1 red1 deep_pink2 deep_pink1 magenta1 orange_red1
   indian_red1 hot_pink dark_orange salmon1 light_coral pale_violet_red1 orchid2 orchid1 orange1
   sandy_brown light_salmon1 light_pink1 pink1 plum1 gold1 navajo_white1 misty_rose1 thistle1
   yellow1 light_goldenrod1 khaki1 wheat1 cornsilk1 gray0 grey0 gray3 grey3 gray7 grey7 gray11
   grey11 gray15 grey15 gray19 grey19 gray23 grey23 gray27 grey27 gray30 grey30 gray35 grey35
   gray37 grey37 gray39 grey39 gray42 grey42 gray46 grey46 gray50 grey50 gray53 grey53 gray54
   grey54 gray58 grey58 gray62 grey62 gray63 grey63 gray66 grey66 gray69 grey69 gray70 grey70
   gray74 grey74 gray78 grey78 gray82 grey82 gray84 grey84 gray85 grey85 gray89 grey89 gray93
   grey93 gray100 grey100"

/-- The largest number of a colour or of a component. -/
def colourLimit : Nat := 255

/-- What a word holds between a function's name and the closing bracket at its end. -/
def argument? (function word : Text) : Option Text :=
  (Text.after? (function ++ "(") word).bind (Text.before? ")")

/-- The number sign and the six digits of a colour. -/
def isHexColour : Text → Bool
  | '#' :: digits =>
    digits.length = 6 && digits.all fun c => c.isDigit || ('a' ≤ c && c ≤ 'f')
  | _ => false

/-- The number of a colour has one to three digits. -/
def isColourNumber (number : Text) : Bool :=
  1 ≤ number.length && number.length ≤ 3 && number.all Char.isDigit
    && Text.decimal number ≤ colourLimit

/-- Three components, of which one without digits cannot be read. -/
def areComponents (inside : Text) : Except Failure Bool :=
  let components := Text.split ',' inside
  if !(inside.all fun c => c = ',' || (Text.digit? c).isSome) || components.length ≠ 3 then
    .ok false
  else if components.any List.isEmpty then .error (.noWhole 10 [])
  else .ok (components.all fun component => Text.decimal component ≤ colourLimit)

/-- The word, in small letters, means a colour. -/
def isColour (word : Text) : Except Failure Bool :=
  if word = "default" || (Text.words colourNames).contains word || isHexColour word then .ok true
  else match argument? "color" word, argument? "rgb" word with
    | some number, _ => .ok (isColourNumber number)
    | none, some inside => areComponents inside
    | none, none => .ok false

end Groundwork.Console
