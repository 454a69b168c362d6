import VariantChess.Text.Case
import VariantChess.Text.Character
import VariantChess.Text.Digit

/-!
# Styles

A style is written as words: attributes, some of which have short names, a color, a color behind the
text, and where a link leads. Two texts that write one style have one normal form; any other text is its
own, but for its case and the blanks around it.
-/

namespace VariantChess.Layout

/-- The attributes in the order of the normal form. -/
def attributeNames : List String :=
  ["bold", "dim", "italic", "underline", "blink", "blink2", "reverse", "conceal", "strike",
   "underline2", "frame", "encircle", "overline"]

/-- The short names of attributes. -/
def shortNames : List (String × String) :=
  [("b", "bold"), ("d", "dim"), ("i", "italic"), ("u", "underline"), ("r", "reverse"),
   ("c", "conceal"), ("s", "strike"), ("uu", "underline2"), ("o", "overline")]

/-- The attribute of a name. -/
def attribute? (word : String) : Option String :=
  if attributeNames.contains word then some word else shortNames.lookup word

/-- The names of colors. -/
def colorNames : List String :=
  ("default " ++
  "black red green yellow blue magenta cyan white bright_black bright_red bright_green " ++
  "bright_yellow bright_blue bright_magenta bright_cyan bright_white grey0 gray0 navy_blue " ++
  "dark_blue blue3 blue1 dark_green deep_sky_blue4 dodger_blue3 dodger_blue2 green4 " ++
  "spring_green4 turquoise4 deep_sky_blue3 dodger_blue1 green3 spring_green3 dark_cyan " ++
  "light_sea_green deep_sky_blue2 deep_sky_blue1 spring_green2 cyan3 dark_turquoise " ++
  "turquoise2 green1 spring_green1 medium_spring_green cyan2 cyan1 dark_red deep_pink4 " ++
  "purple4 purple3 blue_violet orange4 grey37 gray37 medium_purple4 slate_blue3 royal_blue1 " ++
  "chartreuse4 dark_sea_green4 pale_turquoise4 steel_blue steel_blue3 cornflower_blue " ++
  "chartreuse3 cadet_blue sky_blue3 steel_blue1 pale_green3 sea_green3 aquamarine3 " ++
  "medium_turquoise chartreuse2 sea_green2 sea_green1 aquamarine1 dark_slate_gray2 " ++
  "dark_magenta dark_violet purple light_pink4 plum4 medium_purple3 slate_blue1 yellow4 " ++
  "wheat4 grey53 gray53 light_slate_grey light_slate_gray medium_purple light_slate_blue " ++
  "dark_olive_green3 dark_sea_green light_sky_blue3 sky_blue2 dark_sea_green3 " ++
  "dark_slate_gray3 sky_blue1 chartreuse1 light_green pale_green1 dark_slate_gray1 red3 " ++
  "medium_violet_red magenta3 dark_orange3 indian_red hot_pink3 medium_orchid3 medium_orchid " ++
  "medium_purple2 dark_goldenrod light_salmon3 rosy_brown grey63 gray63 medium_purple1 gold3 " ++
  "dark_khaki navajo_white3 grey69 gray69 light_steel_blue3 light_steel_blue yellow3 " ++
  "dark_sea_green2 light_cyan3 light_sky_blue1 green_yellow dark_olive_green2 dark_sea_green1 " ++
  "pale_turquoise1 deep_pink3 magenta2 hot_pink2 orchid medium_orchid1 orange3 light_pink3 " ++
  "pink3 plum3 violet light_goldenrod3 tan misty_rose3 thistle3 plum2 khaki3 light_goldenrod2 " ++
  "light_yellow3 grey84 gray84 light_steel_blue1 yellow2 dark_olive_green1 honeydew2 " ++
  "light_cyan1 red1 deep_pink2 deep_pink1 magenta1 orange_red1 indian_red1 hot_pink " ++
  "dark_orange salmon1 light_coral pale_violet_red1 orchid2 orchid1 orange1 sandy_brown " ++
  "light_salmon1 light_pink1 pink1 plum1 gold1 navajo_white1 misty_rose1 thistle1 yellow1 " ++
  "light_goldenrod1 khaki1 wheat1 cornsilk1 grey100 gray100 grey3 gray3 grey7 gray7 grey11 " ++
  "gray11 grey15 gray15 grey19 gray19 grey23 gray23 grey27 gray27 grey30 gray30 grey35 gray35 " ++
  "grey39 gray39 grey42 gray42 grey46 gray46 grey50 gray50 grey54 gray54 grey58 gray58 grey62 " ++
  "gray62 grey66 gray66 grey70 gray70 grey74 gray74 grey78 gray78 grey82 gray82 grey85 gray85 " ++
  "grey89 gray89 grey93 gray93").splitOn " "

/-- Why words write no style. -/
inductive StyleFault where
  /-- A word says nothing, or too little. -/
  | unknown
  /-- A part of a color that should be a number is empty or too long. -/
  | noNumber
deriving DecidableEq, Repr

/-- The text between a name with an opening bracket and the closing one. -/
def argument? (name : String) (word : List Char) : Option (List Char) :=
  let opening := name.toList ++ ['(']
  if opening.isPrefixOf word && word.getLast? == some ')' then
    some ((word.drop opening.length).dropLast)
  else none

/-- Whether a number of one to three digits is that of a color. -/
def isColorNumber (digits : List Char) : Bool :=
  digits.all Char.isDigit && digits.length ≤ 3 && (Text.decimal? digits).any (· < 256)

/-- Looks through the parts of a color between commas, which must be three numbers below 256. -/
def checkParts (parts : List Char) : Except StyleFault Unit :=
  let isPart (c : Char) : Bool := c = ',' || (Text.decimalValue? c).isSome
  if parts.isEmpty || !parts.all isPart then .error .unknown
  else
    match (parts.splitOn ',').map fun part => (Text.number part).toOption with
    | [some red, some green, some blue] =>
      if red < 256 && green < 256 && blue < 256 then .ok () else .error .unknown
    | [_, _, _] => .error .noNumber
    | _ => .error .unknown

/-- Looks whether a word in small letters is a color: a name, six hexadecimal digits, or numbers. -/
def checkColor (word : String) : Except StyleFault Unit :=
  let cs := word.toList
  let isHex (c : Char) : Bool := c.isDigit || ('a' ≤ c && c ≤ 'f')
  if colorNames.contains word ||
      (cs.head? == some '#' && cs.length == 7 && (cs.drop 1).all isHex) ||
      (argument? "color" cs).any isColorNumber then .ok ()
  else
    match argument? "rgb" cs with
    | some parts => checkParts parts
    | none => .error .unknown

/-- What the words of a style say. -/
structure Style where
  attributes : List (String × Bool) := []
  color : Option String := none
  background : Option String := none
  link : Option String := none

namespace Style

/-- The style with what one more word, in small letters, says about the attributes or the color. -/
def withWord (s : Style) (word : String) : Except StyleFault Style :=
  match attribute? word with
  | some name => .ok { s with attributes := (name, true) :: s.attributes }
  | none => (checkColor word).map fun _ => { s with color := some word }

/-- The style with what further words say; of several words about one thing the last counts. -/
def withWords (s : Style) : List String → Except StyleFault Style
  | [] => .ok s
  | word :: words =>
    match String.ofList (Text.lower word.toList), words with
    | "on", [] | "not", [] | "link", [] => .error .unknown
    | "on", next :: words =>
      let name := String.ofList (Text.lower next.toList)
      match checkColor name with
      | .error fault => .error fault
      | .ok () => withWords { s with background := some name } words
    | "not", next :: words =>
      match attribute? next with
      | none => .error .unknown
      | some name => withWords { s with attributes := (name, false) :: s.attributes } words
    | "link", next :: words => withWords { s with link := some next } words
    | name, words =>
      match s.withWord name with
      | .error fault => .error fault
      | .ok s => withWords s words

/-- The words of a style in order. -/
def words (s : Style) : List String :=
  (attributeNames.filterMap fun name =>
    (s.attributes.lookup name).map fun on => if on then name else "not " ++ name) ++
  s.color.toList ++ (s.background.map ("on " ++ ·)).toList ++ (s.link.map ("link " ++ ·)).toList

/-- The words between the blanks of a text. -/
def blankWords (s : List Char) : List String :=
  ((s.splitOnP Text.isBlank).filter (· ≠ [])).map String.ofList

/-- The style that a text writes. -/
def ofText (s : List Char) : Except StyleFault Style :=
  if blankWords s == ["none"] then .ok {} else withWords {} (blankWords s)

/-- Whether the text can stand for a style, be it for none that is known. -/
def isHarmless (s : List Char) : Bool :=
  match ofText s with
  | .error .noNumber => false
  | _ => true

/-- The normal form of the name of a style, unless a part of its color is empty. -/
def normal? (s : List Char) : Option String :=
  match ofText s with
  | .ok style => some (if style.words.isEmpty then "none" else " ".intercalate style.words)
  | .error .unknown => some (String.ofList (Text.lower (Text.strip s)))
  | .error .noNumber => none

end Style

end VariantChess.Layout
