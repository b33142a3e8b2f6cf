import CallAtlas.Text.Blank
import CallAtlas.Text.Hex
import CallAtlas.Text.LetterCase
import CallAtlas.Text.Numeral
import CallAtlas.Text.Pieces
import CallAtlas.Text.Word

/-!
Styles of console texts: words such as `bold`, `not italic`, `red`, `on #00ff00` and `link x`.  Two
descriptions of the same style have the same normal form, by which tags are compared.
-/

namespace CallAtlas

/-- What a style can switch on or off, in the order in which a normal form lists it. -/
inductive StyleFlag where
  | bold
  | dim
  | italic
  | underline
  | blink
  | fastBlink
  | reverse
  | conceal
  | strike
  | doubleUnderline
  | frame
  | encircle
  | overline
deriving Repr, DecidableEq, Inhabited

namespace StyleFlag

def all : List StyleFlag := [
  .bold, .dim, .italic, .underline, .blink, .fastBlink, .reverse, .conceal, .strike,
  .doubleUnderline, .frame, .encircle, .overline]

def name : StyleFlag → String
  | .bold => "bold"
  | .dim => "dim"
  | .italic => "italic"
  | .underline => "underline"
  | .blink => "blink"
  | .fastBlink => "blink2"
  | .reverse => "reverse"
  | .conceal => "conceal"
  | .strike => "strike"
  | .doubleUnderline => "underline2"
  | .frame => "frame"
  | .encircle => "encircle"
  | .overline => "overline"

def abbreviations : List (String × StyleFlag) := [
  ("b", .bold), ("d", .dim), ("i", .italic), ("u", .underline), ("r", .reverse), ("c", .conceal),
  ("s", .strike), ("uu", .doubleUnderline), ("o", .overline)]

def ofName? (word : Text) : Option StyleFlag :=
  (all.find? fun flag => Text.plain flag.name == word).or
    ((abbreviations.find? fun entry => Text.plain entry.1 == word).map Prod.snd)

end StyleFlag

/-- Why a number in a description cannot be read: it has no digits, or too many. -/
inductive NumberFault where
  | empty
  | oversized (digits : Nat)
deriving Repr, DecidableEq, Inhabited

def NumberFault.message : NumberFault → String
  | .empty => "invalid literal for int() with base 10: ''"
  | .oversized digits => Numeral.readMessage digits

inductive StyleFault where
  | unknown
  | number (cause : NumberFault)
deriving Repr, DecidableEq, Inhabited

namespace Colour

def names : String :=
"black red green yellow blue magenta cyan white bright_black bright_red bright_green bright_yellow
bright_blue bright_magenta bright_cyan bright_white grey0 gray0 navy_blue dark_blue blue3 blue1
dark_green deep_sky_blue4 dodger_blue3 dodger_blue2 green4 spring_green4 turquoise4 deep_sky_blue3
dodger_blue1 green3 spring_green3 dark_cyan light_sea_green deep_sky_blue2 deep_sky_blue1
spring_green2 cyan3 dark_turquoise turquoise2 green1 spring_green1 medium_spring_green cyan2 cyan1
dark_red deep_pink4 purple4 purple3 blue_violet orange4 grey37 gray37 medium_purple4 slate_blue3
royal_blue1 chartreuse4 dark_sea_green4 pale_turquoise4 steel_blue steel_blue3 cornflower_blue
chartreuse3 cadet_blue sky_blue3 steel_blue1 pale_green3 sea_green3 aquamarine3 medium_turquoise
chartreuse2 sea_green2 sea_green1 aquamarine1 dark_slate_gray2 dark_magenta dark_violet purple
light_pink4 plum4 medium_purple3 slate_blue1 yellow4 wheat4 grey53 gray53 light_slate_grey
light_slate_gray medium_purple light_slate_blue dark_olive_green3 dark_sea_green light_sky_blue3
sky_blue2 dark_sea_green3 dark_slate_gray3 sky_blue1 chartreuse1 light_green pale_green1
dark_slate_gray1 red3 medium_violet_red magenta3 dark_orange3 indian_red hot_pink3 medium_orchid3
medium_orchid medium_purple2 dark_goldenrod light_salmon3 rosy_brown grey63 gray63 medium_purple1
gold3 dark_khaki navajo_white3 grey69 gray69 light_steel_blue3 light_steel_blue yellow3
dark_sea_green2 light_cyan3 light_sky_blue1 green_yellow dark_olive_green2 dark_sea_green1
pale_turquoise1 deep_pink3 magenta2 hot_pink2 orchid medium_orchid1 orange3 light_pink3 pink3
plum3 violet light_goldenrod3 tan misty_rose3 thistle3 plum2 khaki3 light_goldenrod2 light_yellow3
grey84 gray84 light_steel_blue1 yellow2 dark_olive_green1 honeydew2 light_cyan1 red1 deep_pink2
deep_pink1 magenta1 orange_red1 indian_red1 hot_pink dark_orange salmon1 light_coral
pale_violet_red1 orchid2 orchid1 orange1 sandy_brown light_salmon1 light_pink1 pink1 plum1 gold1
navajo_white1 misty_rose1 thistle1 yellow1 light_goldenrod1 khaki1 wheat1 cornsilk1 grey100
gray100 grey3 gray3 grey7 gray7 grey11 gray11 grey15 gray15 grey19 gray19 grey23 gray23 grey27
gray27 grey30 gray30 grey35 gray35 grey39 gray39 grey42 gray42 grey46 gray46 grey50 gray50 grey54
gray54 grey58 gray58 grey62 gray62 grey66 gray66 grey70 gray70 grey74 gray74 grey78 gray78 grey82
gray82 grey85 gray85 grey89 gray89 grey93 gray93"

def known : List String := (Blank.words Blank.isSpace names.toList).map String.ofList

/-- The text between a beginning and a closing parenthesis at the end. -/
def inside? (start word : List Char) : Option (List Char) :=
  if start.isPrefixOf word && word.getLast? == some ')' then
    some ((word.drop start.length).dropLast)
  else none

/-- The number that digits of any script stand for. -/
def number (digits : List Char) : Except StyleFault Nat :=
  if digits.isEmpty then .error (.number .empty)
  else if Numeral.maxDigits < digits.length then .error (.number (.oversized digits.length))
  else .ok (digits.foldl (fun n c => 10 * n + (Word.digit? c).getD 0) 0)

/-- Checks the three numbers of a colour, each up to 255. -/
def checkMix (body : List Char) : Except StyleFault Unit :=
  if body.isEmpty || !(body.all fun c => (Word.digit? c).isSome || c == ',') then .error .unknown
  else
    match pieces ',' body with
    | [red, green, blue] => do
      let red ← number red
      let green ← number green
      let blue ← number blue
      if red ≤ 255 ∧ green ≤ 255 ∧ blue ≤ 255 then pure () else .error .unknown
    | _ => .error .unknown

/-- Checks a colour in lower case: a name, `#` and six digits, a number up to 255, or a mix. -/
def check (word : String) : Except StyleFault Unit :=
  if word = "default" || known.contains word then .ok ()
  else
    match word.toList with
    | '#' :: digits =>
      if digits.length = 6 && digits.all fun c => (Hex.value? c).isSome then .ok ()
      else .error .unknown
    | word =>
      match inside? "color(".toList word, inside? "rgb(".toList word with
      | some digits, _ =>
        if digits.length ≤ 3 && digits.all Char.isDigit && (number digits).toOption.any (· ≤ 255)
        then .ok () else .error .unknown
      | none, some body => checkMix body
      | none, none => .error .unknown

/-- The name of a colour. -/
def ofWord (word : Text) : Except StyleFault Text :=
  match word.lowerCase with
  | .plain lower => (check lower).map fun _ => .plain lower
  | .broken _ _ _ => .error .unknown

end Colour

structure Style where
  flags : List (StyleFlag × Bool) := []
  colour : Option Text := none
  background : Option Text := none
  link : Option Text := none
deriving Repr, DecidableEq, Inhabited

namespace Style

def setFlag (style : Style) (flag : StyleFlag) (on : Bool) : Style :=
  { style with flags := style.flags.filter (fun entry => entry.1 ≠ flag) ++ [(flag, on)] }

def addWords (style : Style) : List Text → Except StyleFault Style
  | [] => .ok style
  | word :: rest =>
    let lower := word.lowerCase
    if lower = "on" then
      match rest with
      | [] => .error .unknown
      | next :: rest => do
        let background ← Colour.ofWord next
        addWords { style with background := some background } rest
    else if lower = "not" then
      match rest with
      | [] => .error .unknown
      | next :: rest =>
        match StyleFlag.ofName? next with
        | some flag => addWords (style.setFlag flag false) rest
        | none => .error .unknown
    else if lower = "link" then
      match rest with
      | [] => .error .unknown
      | next :: rest => addWords { style with link := some next } rest
    else
      match StyleFlag.ofName? lower with
      | some flag => addWords (style.setFlag flag true) rest
      | none => do
        let colour ← Colour.ofWord lower
        addWords { style with colour := some colour } rest

def words (style : Style) : List Text :=
  (StyleFlag.all.flatMap fun flag =>
    match style.flags.find? fun entry => entry.1 == flag with
    | some (_, true) => [Text.plain flag.name]
    | some (_, false) => ["not", flag.name]
    | none => [])
    ++ style.colour.toList
    ++ (match style.background with
        | some background => ["on", background]
        | none => [])
    ++ (match style.link with
        | some link => ["link", link]
        | none => [])

def text (style : Style) : Text :=
  match style.words with
  | [] => "none"
  | words => Text.joined " " words

/-- The normal form of a description.  One that is no style stands for itself, in lower case and
without blanks around it. -/
def normalForm (description : Text) : Except NumberFault Text :=
  let plain := description.trimmed
  if plain = "none" then .ok "none"
  else
    match addWords {} description.words with
    | .ok style => .ok style.text
    | .error .unknown => .ok plain.lowerCase
    | .error (.number cause) => .error cause

/-- Why looking a style up fails, apart from there being none. -/
def fault? (description : Text) : Option NumberFault :=
  match addWords {} description.words with
  | .error (.number cause) => some cause
  | _ => none

end Style

end CallAtlas
