import Bibliography.Text.DigitTable
import Bibliography.Text.LetterCase
import Bibliography.Text.Lines
import Bibliography.Text.Numeral

/-!
# Appearances

How a console is asked to show a text: attributes that are switched on or off, a color, a color of the
background and a link. A description lists them as words, such as `bold red on #FFFFFF`; where several
words set the same thing, the last one counts. Descriptions with the same effect have the same normal
form, and what describes no appearance is its own normal form but for case and the blanks around it.
-/

namespace Bibliography.Console

open Text

/-! ## §1 Attributes -/

/-- Something that can be switched on or off. -/
inductive Attribute where
  | bold
  | dim
  | italic
  | underline
  | blink
  | fastBlink
  | reverse
  | conceal
  | strike
  | doubleUnderline
  | frame
  | encircle
  | overline
  deriving DecidableEq, Repr

namespace Attribute

/-- The attributes, in the order of a normal form. -/
def all : List Attribute :=
  [bold, dim, italic, underline, blink, fastBlink, reverse, conceal, strike, doubleUnderline, frame,
    encircle, overline]

/-- The words for an attribute; the first one stands in normal forms. -/
def names : Attribute → List String
  | bold => ["bold", "b"]
  | dim => ["dim", "d"]
  | italic => ["italic", "i"]
  | underline => ["underline", "u"]
  | blink => ["blink"]
  | fastBlink => ["blink2"]
  | reverse => ["reverse", "r"]
  | conceal => ["conceal", "c"]
  | strike => ["strike", "s"]
  | doubleUnderline => ["underline2", "uu"]
  | frame => ["frame"]
  | encircle => ["encircle"]
  | overline => ["overline", "o"]

/-- The attribute that a word stands for. -/
def ofWord? (word : List Char) : Option Attribute :=
  all.find? fun a => a.names.contains (String.ofList word)

/-- The words of a normal form for an attribute that is switched on or off. -/
def text (a : Attribute) (on : Bool) : String := (if on then "" else "not ") ++ a.names.headD ""

end Attribute

/-! ## §2 Colors -/

/-- The names of colors. -/
def colorNames : List (List Char) := Text.words
  ("default aquamarine1 aquamarine3 black blue blue1 blue3 blue_violet bright_black bright_blue bright_cyan
bright_green bright_magenta bright_red bright_white bright_yellow cadet_blue chartreuse1
chartreuse2 chartreuse3 chartreuse4 cornflower_blue cornsilk1 cyan cyan1 cyan2 cyan3 dark_blue
dark_cyan dark_goldenrod dark_green dark_khaki dark_magenta dark_olive_green1 dark_olive_green2
dark_olive_green3 dark_orange dark_orange3 dark_red dark_sea_green dark_sea_green1
dark_sea_green2 dark_sea_green3 dark_sea_green4 dark_slate_gray1 dark_slate_gray2
dark_slate_gray3 dark_turquoise dark_violet deep_pink1 deep_pink2 deep_pink3 deep_pink4
deep_sky_blue1 deep_sky_blue2 deep_sky_blue3 deep_sky_blue4 dodger_blue1 dodger_blue2
dodger_blue3 gold1 gold3 gray0 gray100 gray11 gray15 gray19 gray23 gray27 gray3 gray30 gray35
gray37 gray39 gray42 gray46 gray50 gray53 gray54 gray58 gray62 gray63 gray66 gray69 gray7 gray70
gray74 gray78 gray82 gray84 gray85 gray89 gray93 green green1 green3 green4 green_yellow grey0
grey100 grey11 grey15 grey19 grey23 grey27 grey3 grey30 grey35 grey37 grey39 grey42 grey46
grey50 grey53 grey54 grey58 grey62 grey63 grey66 grey69 grey7 grey70 grey74 grey78 grey82 grey84
grey85 grey89 grey93 honeydew2 hot_pink hot_pink2 hot_pink3 indian_red indian_red1 khaki1 khaki3
light_coral light_cyan1 light_cyan3 light_goldenrod1 light_goldenrod2 light_goldenrod3
light_green light_pink1 light_pink3 light_pink4 light_salmon1 light_salmon3 light_sea_green
light_sky_blue1 light_sky_blue3 light_slate_blue light_slate_gray light_slate_grey
light_steel_blue light_steel_blue1 light_steel_blue3 light_yellow3 magenta magenta1 magenta2
magenta3 medium_orchid medium_orchid1 medium_orchid3 medium_purple medium_purple1 medium_purple2
medium_purple3 medium_purple4 medium_spring_green medium_turquoise medium_violet_red misty_rose1
misty_rose3 navajo_white1 navajo_white3 navy_blue orange1 orange3 orange4 orange_red1 orchid
orchid1 orchid2 pale_green1 pale_green3 pale_turquoise1 pale_turquoise4 pale_violet_red1 pink1
pink3 plum1 plum2 plum3 plum4 purple purple3 purple4 red red1 red3 rosy_brown royal_blue1
salmon1 sandy_brown sea_green1 sea_green2 sea_green3 sky_blue1 sky_blue2 sky_blue3 slate_blue1
slate_blue3 spring_green1 spring_green2 spring_green3 spring_green4 steel_blue steel_blue1
steel_blue3 tan thistle1 thistle3 turquoise2 turquoise4 violet wheat1 wheat4 white yellow
yellow1 yellow2 yellow3 yellow4").toList

/-- The largest part of a color, and the largest number of one. -/
def maxColorPart : Nat := 255

/-- Reads a part of a color between commas, where digits of any script are accepted. -/
def readColorPart (s : List Char) : Except NumeralFault Nat :=
  if s.isEmpty then .error (.invalid 10 s)
  else if maxDigits < s.length then .error (.tooLong s.length)
  else .ok (s.foldl (fun n c => 10 * n + (decimalValue? c).getD 0) 0)

/-- What stands between `name(` and the parenthesis at the end, if the word has this form. -/
def callArgument? (name : String) (word : List Char) : Option (List Char) :=
  let opening := name.toList ++ ['(']
  if opening.isPrefixOf word ∧ word.getLast? = some ')' then
    some ((word.drop opening.length).dropLast)
  else none

/-- Whether a word in lower case stands for a color: by its name, as `#` with six digits in base
sixteen, as a number such as `color(9)` or by its parts as in `rgb(255,0,127)`. -/
def isColor (word : List Char) : Except NumeralFault Bool :=
  if colorNames.contains word then .ok true
  else match word, callArgument? "color" word, callArgument? "rgb" word with
    -- a name goes before the digits, these before a number and this before the parts
    | '#' :: digits, _, _ =>
      .ok (digits.length == 6 && digits.all fun c => c.isDigit || ('a' ≤ c && c ≤ 'f'))
    | _, some number, _ =>
      .ok (!number.isEmpty && number.length ≤ 3 && number.all Char.isDigit
        && number.foldl (fun n c => 10 * n + (c.toNat - 48)) 0 ≤ maxColorPart)
    | _, _, some argument =>
      let parts := splitOn ',' argument
      if parts.length = 3 ∧ argument.all (fun c => c == ',' || (decimalValue? c).isSome) then
        (parts.mapM readColorPart).map fun ns => ns.all (· ≤ maxColorPart)
      else .ok false
    | _, _, _ => .ok false

/-! ## §3 Descriptions -/

/-- How a text is shown. An attribute that occurs twice is as its first occurrence says. -/
structure Appearance where
  attributes : List (Attribute × Bool)
  color : Option (List Char)
  background : Option (List Char)
  link : Option (List Char)
  deriving DecidableEq, Repr

/-- Why a text is no description. -/
inductive AppearanceFault where
  | unknown
  | numeral (fault : NumeralFault)
  deriving DecidableEq, Repr

namespace Appearance

/-- The appearance where nothing is asked for. -/
def plain : Appearance := ⟨[], none, none, none⟩

/-- A word that must be a color, in lower case. -/
def readColor (word : List Char) : Except AppearanceFault (List Char) :=
  match isColor (lower word) with
  | .error fault => .error (.numeral fault)
  | .ok true => .ok (lower word)
  | .ok false => .error .unknown

/-- Changes an appearance as the words of a description say. -/
def readWords (a : Appearance) : List (List Char) → Except AppearanceFault Appearance
  | [] => .ok a
  | word :: rest =>
    let name := lower word
    -- three words take the next one with them
    if name = "on".toList then
      match rest with
      | [] => .error .unknown
      | color :: rest =>
        match readColor color with
        | .error fault => .error fault
        | .ok color => readWords { a with background := some color } rest
    else if name = "not".toList then
      match rest with
      | [] => .error .unknown
      | switched :: rest =>
        match Attribute.ofWord? switched with
        | none => .error .unknown
        | some t => readWords { a with attributes := (t, false) :: a.attributes } rest
    else if name = "link".toList then
      match rest with
      | [] => .error .unknown
      | link :: rest => readWords { a with link := some link } rest
    -- any other word is an attribute, or else a color
    else match Attribute.ofWord? name with
      | some t => readWords { a with attributes := (t, true) :: a.attributes } rest
      | none =>
        match readColor name with
        | .error fault => .error fault
        | .ok color => readWords { a with color := some color } rest

/-- The appearance that a text describes. -/
def read (s : List Char) : Except AppearanceFault Appearance :=
  if trim s = "none".toList then .ok plain else plain.readWords (Text.words s)

/-- The description of an appearance in its normal form. -/
def text (a : Appearance) : List Char :=
  let attributes := Attribute.all.filterMap fun t =>
    (a.attributes.lookup t).map fun on => (t.text on).toList
  let parts := attributes ++ a.color.toList ++ (a.background.map ("on ".toList ++ ·)).toList
    ++ (a.link.map ("link ".toList ++ ·)).toList
  if parts.isEmpty then "none".toList else joinWith [' '] parts

end Appearance

/-- The normal form of a description. -/
def normalAppearance (s : List Char) : Except NumeralFault (List Char) :=
  match Appearance.read s with
  | .ok a => .ok a.text
  | .error .unknown => .ok (lower (trim s))
  | .error (.numeral fault) => .error fault

end Bibliography.Console
