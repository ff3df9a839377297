import TestScaffold.Decimal.Reading
import TestScaffold.Text.Casing

namespace TestScaffold.Text.Markup

def attributeWords : List (String × List String) :=
  [("bold", ["bold", "b"]), ("dim", ["dim", "d"]), ("italic", ["italic", "i"]),
   ("underline", ["underline", "u"]), ("blink", ["blink"]), ("blink2", ["blink2"]),
   ("reverse", ["reverse", "r"]), ("conceal", ["conceal", "c"]), ("strike", ["strike", "s"]),
   ("underline2", ["underline2", "uu"]), ("frame", ["frame"]), ("encircle", ["encircle"]),
   ("overline", ["overline", "o"])]

def colourNames : List String := wordsOf "
  black red green yellow blue magenta cyan white bright_black bright_red bright_green
  bright_yellow bright_blue bright_magenta bright_cyan bright_white grey0 gray0 navy_blue
  dark_blue blue3 blue1 dark_green deep_sky_blue4 dodger_blue3 dodger_blue2 green4
  spring_green4 turquoise4 deep_sky_blue3 dodger_blue1 green3 spring_green3 dark_cyan
  light_sea_green deep_sky_blue2 deep_sky_blue1 spring_green2 cyan3 dark_turquoise turquoise2
  green1 spring_green1 medium_spring_green cyan2 cyan1 dark_red deep_pink4 purple4 purple3
  blue_violet orange4 grey37 gray37 medium_purple4 slate_blue3 royal_blue1 chartreuse4
  dark_sea_green4 pale_turquoise4 steel_blue steel_blue3 cornflower_blue chartreuse3
  cadet_blue sky_blue3 steel_blue1 pale_green3 sea_green3 aquamarine3 medium_turquoise
  chartreuse2 sea_green2 sea_green1 aquamarine1 dark_slate_gray2 dark_magenta dark_violet
  purple light_pink4 plum4 medium_purple3 slate_blue1 yellow4 wheat4 grey53 gray53
  light_slate_grey light_slate_gray medium_purple light_slate_blue dark_olive_green3
  dark_sea_green light_sky_blue3 sky_blue2 dark_sea_green3 dark_slate_gray3 sky_blue1
  chartreuse1 light_green pale_green1 dark_slate_gray1 red3 medium_violet_red magenta3
  dark_orange3 indian_red hot_pink3 medium_orchid3 medium_orchid medium_purple2 dark_goldenrod
  light_salmon3 rosy_brown grey63 gray63 medium_purple1 gold3 dark_khaki navajo_white3 grey69
  gray69 light_steel_blue3 light_steel_blue yellow3 dark_sea_green2 light_cyan3
  light_sky_blue1 green_yellow dark_olive_green2 dark_sea_green1 pale_turquoise1 deep_pink3
  magenta2 hot_pink2 orchid medium_orchid1 orange3 light_pink3 pink3 plum3 violet
  light_goldenrod3 tan misty_rose3 thistle3 plum2 khaki3 light_goldenrod2 light_yellow3 grey84
  gray84 light_steel_blue1 yellow2 dark_olive_green1 honeydew2 light_cyan1 red1 deep_pink2
  deep_pink1 magenta1 orange_red1 indian_red1 hot_pink dark_orange salmon1 light_coral
  pale_violet_red1 orchid2 orchid1 orange1 sandy_brown light_salmon1 light_pink1 pink1 plum1
  gold1 navajo_white1 misty_rose1 thistle1 yellow1 light_goldenrod1 khaki1 wheat1 cornsilk1
  grey100 gray100 grey3 gray3 grey7 gray7 grey11 gray11 grey15 gray15 grey19 gray19 grey23
  gray23 grey27 gray27 grey30 gray30 grey35 gray35 grey39 gray39 grey42 gray42 grey46 gray46
  grey50 gray50 grey54 gray54 grey58 gray58 grey62 gray62 grey66 gray66 grey70 gray70 grey74
  gray74 grey78 gray78 grey82 gray82 grey85 gray85 grey89 gray89 grey93 gray93"

def attribute? (word : String) : Option String :=
  (attributeWords.find? (·.2.contains word)).map (·.1)

structure Style where
  attributes : List (String × Bool) := []
  colour : Option String := none
  background : Option String := none
  link : Option String := none

def Style.text (s : Style) : String :=
  let attributes := attributeWords.filterMap fun a =>
    (s.attributes.find? (·.1 == a.1)).map fun v => if v.2 then a.1 else "not " ++ a.1
  let words := attributes ++ s.colour.toList ++ (s.background.toList.map ("on " ++ ·)) ++
    (s.link.toList.map ("link " ++ ·))
  if words.isEmpty then "none" else " ".intercalate words

inductive StyleError where
  | unknown
  | notANumber
  deriving DecidableEq, Repr

def bracketed? (word : String) (cs : List Char) : Option (List Char) :=
  let opened := (word ++ "(").toList
  if opened.isPrefixOf cs && opened.length < cs.length && cs.getLast? == some ')' then
    some ((cs.drop opened.length).dropLast)
  else none

def isLowerHex (c : Char) : Bool := isAsciiDigit c || ('a' ≤ c && c ≤ 'f')

def readParts (cs : List Char) : Except StyleError Unit :=
  if cs.isEmpty || !cs.all fun c => c == ',' || (digitValue? c).isSome then .error .unknown
  else
    match pieces (· == ',') cs with
    | [r, g, b] =>
      match [r, g, b].mapM (Decimal.int? digitValue?) with
      | none => .error .notANumber
      | some ns => if ns.all (· ≤ 255) then .ok () else .error .unknown
    | _ => .error .unknown

def readColour (word : List Char) : Except StyleError String :=
  let cs := lower word
  let name := String.ofList cs
  if name == "default" || colourNames.contains name then .ok name
  else if cs.head? == some '#' && cs.length == 7 && (cs.drop 1).all isLowerHex then .ok name
  else
    match bracketed? "color" cs, bracketed? "rgb" cs with
    | some ds, _ =>
      if !ds.isEmpty && ds.length ≤ 3 && ds.all isAsciiDigit &&
          Decimal.ofDigits (ds.map (·.toNat - 48)) ≤ 255 then .ok name
      else .error .unknown
    | none, some parts => (readParts parts).map fun _ => name
    | none, none => .error .unknown

def readWords (s : Style) : List (List Char) → Except StyleError Style
  | [] => .ok s
  | word :: rest =>
    let lowered := String.ofList (lower word)
    match lowered, rest with
    | "on", colour :: rest => do
      let name ← readColour colour
      readWords { s with background := some name } rest
    | "not", word :: rest =>
      match attribute? (String.ofList word) with
      | some a => readWords { s with attributes := (a, false) :: s.attributes } rest
      | none => .error .unknown
    | "link", target :: rest => readWords { s with link := some (String.ofList target) } rest
    | "on", [] | "not", [] | "link", [] => .error .unknown
    | _, rest =>
      match attribute? lowered with
      | some a => readWords { s with attributes := (a, true) :: s.attributes } rest
      | none => do
        let name ← readColour word
        readWords { s with colour := some name } rest

def normalStyle (name : List Char) : Except StyleError String :=
  match readWords {} (words name) with
  | .ok s => .ok s.text
  | .error .unknown => .ok (String.ofList (strip (lower name)))
  | .error .notANumber => .error .notANumber

end TestScaffold.Text.Markup
