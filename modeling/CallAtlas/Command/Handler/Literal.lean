import CallAtlas.Text.Hex
import CallAtlas.Text.Numeral
import CallAtlas.Text.Word

/-!
Numbers and texts in an expression: where they end, and why they cannot be read.
-/

namespace CallAtlas.Handler

/-- Whether a character is taken to be part of a name until the name is checked: a letter, a digit, an
underscore, or any character past ASCII. -/
def isNameChar (c : Char) : Bool := 0x80 ≤ c.toNat || c.isAlphanum || c == '_'

/-- How many brackets may be open at once. -/
def maxLevel : Nat := 200

/-- The message for a literal of some kind that is not well formed. -/
def badLiteral (kind : String) : String := "invalid " ++ kind ++ " literal"

/-- What follows digits with single underscores between them, of which the first was checked. -/
def afterDigits (isDigit : Char → Bool) (fault : String) : List Char → Except String (List Char)
  | [] => .ok []
  | '_' :: rest =>
    match rest with
    | [] => .error fault
    | c :: _ => if isDigit c then afterDigits isDigit fault rest else .error fault
  | c :: rest => if isDigit c then afterDigits isDigit fault rest else .ok (c :: rest)

/-- Whether a word that may follow a number without a blank comes next. -/
def meetsWord (rest : List Char) : Bool :=
  (["if", "in", "is"].any fun word => word.toList.isPrefixOf rest)
    || ["and", "else", "for", "or", "not"].any fun word =>
      word.toList.isPrefixOf rest && !((rest.drop word.length).head?).any isNameChar

/-- Checks that no name starts right after a number. -/
def endNumber (kind : String) (rest : List Char) : Except String (List Char) :=
  match rest with
  | [] => .ok []
  | c :: _ =>
    if c.toNat < 0x80 && isNameChar c && !meetsWord rest then .error (badLiteral kind) else .ok rest

/-- What follows the end of a number that may be imaginary. -/
def endDecimal (rest : List Char) : Except String (List Char) :=
  match rest with
  | 'j' :: rest => endNumber "imaginary" rest
  | 'J' :: rest => endNumber "imaginary" rest
  | rest => endNumber "decimal" rest

/-- What follows the exponent of a number, if it has one. -/
def afterExponent (rest : List Char) : Except String (List Char) :=
  let fault := badLiteral "decimal"
  match rest with
  | e :: more =>
    if e = 'e' || e = 'E' then
      match more with
      | sign :: digits =>
        if sign = '+' || sign = '-' then
          if (digits.head?).any Char.isDigit then
            (afterDigits Char.isDigit fault digits).bind endDecimal
          else .error fault
        else if sign.isDigit then (afterDigits Char.isDigit fault more).bind endDecimal
        else endNumber "decimal" rest
      | [] => endNumber "decimal" rest
    else endDecimal rest
  | [] => .ok []

/-- What follows the places after the point of a number. -/
def afterPlaces (rest : List Char) : Except String (List Char) :=
  if (rest.head?).any Char.isDigit then
    (afterDigits Char.isDigit (badLiteral "decimal") rest).bind afterExponent
  else afterExponent rest

/-- What follows a whole number in another base than ten, whose mark was read. -/
def afterBase (isDigit : Char → Bool) (kind : String) (text : List Char) :
    Except String (List Char) :=
  let digits := if text.head? = some '_' then text.drop 1 else text
  let stray (rest : List Char) : Option String :=
    match rest with
    | c :: _ =>
      if c.isDigit then some ("invalid digit '" ++ String.singleton c ++ "' in " ++ kind ++ " literal")
      else none
    | [] => none
  if (digits.head?).any isDigit then
    match afterDigits isDigit (badLiteral kind) digits with
    | .error fault => .error fault
    | .ok rest =>
      match stray rest with
      | some fault => .error fault
      | none => endNumber kind rest
  else .error ((stray digits).getD (badLiteral kind))

/-- What follows a number in base ten. -/
def afterDecimal (text : List Char) : Except String (List Char) :=
  match afterDigits Char.isDigit (badLiteral "decimal") text with
  | .error fault => .error fault
  | .ok rest =>
    let digits := text.take (text.length - rest.length)
    let hasLeadingZero :=
      digits.head? = some '0' && digits.any fun c => c != '0' && c != '_'
    match rest with
    | '.' :: rest => afterPlaces rest
    | rest =>
      if hasLeadingZero && !(rest.head?).any fun c => ['e', 'E', 'j', 'J'].contains c then
        .error ("leading zeros in decimal integer literals are not permitted; "
          ++ "use an 0o prefix for octal integers")
      else afterExponent rest

/-- What follows a number, or why it cannot be read. -/
def afterNumber (text : List Char) : Except String (List Char) :=
  match text with
  | '.' :: rest => afterPlaces rest
  | '0' :: mark :: rest =>
    if mark = 'x' || mark = 'X' then afterBase (fun c => (Hex.value? c).isSome) "hexadecimal" rest
    else if mark = 'o' || mark = 'O' then afterBase (fun c => '0' ≤ c && c ≤ '7') "octal" rest
    else if mark = 'b' || mark = 'B' then afterBase (fun c => c == '0' || c == '1') "binary" rest
    else afterDecimal text
  | text => afterDecimal text

/-- Why a number that was found cannot be read: a whole number in base ten has too many digits. -/
def numberFault? (number : List Char) : Option String :=
  let digits := number.filter (· ≠ '_')
  if digits.all Char.isDigit && digits.head? != some '0' && Numeral.maxDigits < digits.length then
    some (Numeral.readMessage digits.length
      ++ " - Consider hexadecimal for huge integer literals to avoid decimal conversion limits.")
  else none

/-- What follows the closing quote of a text that goes on from a line, or the line on which it ends
without one. -/
def afterQuote (quote : Char) (line : Nat) : List Char → Except Nat (List Char)
  | [] => .error line
  | '\\' :: c :: rest => afterQuote quote (if c = '\n' then line + 1 else line) rest
  | c :: rest =>
    if c = quote then .ok rest else if c = '\n' then .error line else afterQuote quote line rest

def afterThreeQuotes (quote : Char) : List Char → Option (List Char)
  | [] => none
  | '\\' :: _ :: rest => afterThreeQuotes quote rest
  | c :: rest =>
    if [quote, quote, quote].isPrefixOf (c :: rest) then some (rest.drop 2)
    else afterThreeQuotes quote rest

/-- What stands between the quotes of a text and what follows them, or why the text has no end.  Its
first quote was read; the last line of the whole expression is `lines`. -/
def splitText (lines : Nat) (quote : Char) (text : List Char) :
    Except String (List Char × List Char) :=
  let unended (kind : String) (line : Nat) : String :=
    "unterminated " ++ kind ++ " literal (detected at line " ++ toString line ++ ")"
  if [quote, quote].isPrefixOf text then
    let inner := text.drop 2
    match afterThreeQuotes quote inner with
    | some rest => .ok (inner.take (inner.length - rest.length - 3), rest)
    | none => .error (unended "triple-quoted string" lines)
  else
    match afterQuote quote (lines - text.count '\n') text with
    | .ok rest => .ok (text.take (text.length - rest.length - 1), rest)
    | .error line => .error (unended "string" line)

/-- What the letters before a quote say of a text. -/
structure TextKind where
  isBytes : Bool := false
  isRaw : Bool := false
  isTemplate : Bool := false
deriving Repr, DecidableEq, Inhabited

/-- The kind of a text with these letters before its quote. -/
def TextKind.ofLetters? (letters : List Char) : Option TextKind :=
  match String.ofList (letters.map Char.toLower) with
  | "" | "u" => some {}
  | "r" => some { isRaw := true }
  | "b" => some { isBytes := true }
  | "br" | "rb" => some { isBytes := true, isRaw := true }
  | "f" => some { isTemplate := true }
  | "fr" | "rf" => some { isTemplate := true, isRaw := true }
  | _ => none

/-- A text with every character past ASCII spelled as an escape.  Positions in it are reported. -/
def spelled : List Char → List Char
  | [] => []
  | [c] => spelledChar c
  | c :: next :: rest =>
    if c = '\\' then
      if 0x80 ≤ next.toNat then "\\u005c".toList ++ spelled (next :: rest)
      else c :: next :: spelled rest
    else spelledChar c ++ spelled (next :: rest)
where
  spelledChar (c : Char) : List Char :=
    if 0x80 ≤ c.toNat then '\\' :: 'U' :: Hex.digits 8 c.toNat else [c]

/-- What is said of the escape between two positions. -/
def escapeMessage (start stop : Nat) (reason : String) : String :=
  "(unicode error) 'unicodeescape' codec can't decode bytes in position " ++ toString start ++ "-"
    ++ toString (stop - 1) ++ ": " ++ reason

def isCharName (name : List Char) : Bool :=
  name.all fun c => c.isAlphanum || c == ' ' || c == '-'

/-- Why an escape with so many hexadecimal digits cannot be read. -/
def digitsFault? (position width : Nat) (rest : List Char) (reason : String) : Option String :=
  let digits := (rest.take width).takeWhile fun c => (Hex.value? c).isSome
  let stop := position + 2 + digits.length
  if digits.length < width then some (escapeMessage position stop reason)
  else if 0x10ffff < digits.foldl (fun value c => 16 * value + (Hex.value? c).getD 0) 0 then
    some (escapeMessage position stop "illegal Unicode character")
  else none

/-- Why the escape of a named character cannot be read. -/
def namedFault? (position : Nat) (rest : List Char) : Option String :=
  let malformed (stop : Nat) : Option String :=
    some (escapeMessage position stop "malformed \\N character escape")
  match rest with
  | '\x7b' :: rest =>
    let name := rest.takeWhile (· ≠ '\x7d')
    if name.length = rest.length then malformed (position + 3 + rest.length)
    else if name.isEmpty then malformed (position + 3)
    else if isCharName name then none
    else some (escapeMessage position (position + 4 + name.length) "unknown Unicode character name")
  | _ => malformed (position + 2)

/-- Why the escapes of a text cannot be read. -/
def escapeFault? (position : Nat) : List Char → Option String
  | [] => none
  | [_] => none
  | c :: mark :: rest =>
    if c = '\\' then
      let fault? :=
        match mark with
        | 'x' => digitsFault? position 2 rest "truncated \\xXX escape"
        | 'u' => digitsFault? position 4 rest "truncated \\uXXXX escape"
        | 'U' => digitsFault? position 8 rest "truncated \\UXXXXXXXX escape"
        | 'N' => namedFault? position rest
        | _ => none
      fault?.or (escapeFault? (position + 2) rest)
    else escapeFault? (position + 1) (mark :: rest)

def byteEscapeFault? (position : Nat) : List Char → Option String
  | [] => none
  | [_] => none
  | c :: mark :: rest =>
    if c = '\\' then
      if mark = 'x' && ((rest.take 2).filter fun c => (Hex.value? c).isSome).length < 2 then
        some ("(value error) invalid \\x escape at position " ++ toString position)
      else byteEscapeFault? (position + 2) rest
    else byteEscapeFault? (position + 1) (mark :: rest)

/-- Why a text of some kind that is no template cannot be read. -/
def TextKind.fault? (kind : TextKind) (content : List Char) : Option String :=
  if kind.isBytes then
    if content.any fun c => 0x80 ≤ c.toNat then
      some "bytes can only contain ASCII literal characters"
    else if kind.isRaw then none
    else byteEscapeFault? 0 content
  else if kind.isRaw then none
  else escapeFault? 0 (spelled content)

end CallAtlas.Handler
