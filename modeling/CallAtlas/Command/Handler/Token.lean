import CallAtlas.Command.Handler.Literal
import CallAtlas.Text.Printable

/-!
The tokens of an expression.  Lines count outside brackets only: there a line break is a token, and so
is a change of the blanks before a line.
-/

namespace CallAtlas.Handler

inductive Kind where
  | name (text : String)
  | word (text : String)
  | number (isImaginary : Bool) (fault : Option String)
  | text (kind : TextKind) (fault : Option String)
  | newline
  | indent
  | dedent
  | finish
deriving Repr, DecidableEq, Inhabited

/-- A token, the line on which it starts, how many brackets are open after it, and whether the end of
the text was met to find its own end. -/
structure Token where
  kind : Kind
  line : Nat
  level : Nat
  meetsEnd : Bool
deriving Repr, DecidableEq, Inhabited

structure Bracket where
  char : Char
  line : Nat
deriving Repr, DecidableEq, Inhabited

namespace Bracket

/-- The bracket that closes this one. -/
def partner (bracket : Bracket) : Char := if bracket.char = '(' then ')' else '\x7d'

def openMessage (bracket : Bracket) : String :=
  "'" ++ String.singleton bracket.char ++ "' was never closed"

/-- What is said of a bracket that is closed by another kind on some line. -/
def mismatch (bracket : Bracket) (c : Char) (line : Nat) : String :=
  "closing parenthesis '" ++ String.singleton c ++ "' does not match opening parenthesis '"
    ++ String.singleton bracket.char ++ "'"
    ++ (if bracket.line = line then "" else " on line " ++ toString bracket.line)

end Bracket

/-- How the tokens of a text end: at the end of the text; at something that is no token, which is
always told; or at something that is told only if the reading comes to it, with the bracket that is open
there. -/
inductive Ending where
  | finished
  | refused (message : String)
  | halted (message : String) (opened : Option Bracket)
deriving Repr, DecidableEq, Inhabited

structure Tokens where
  found : Array Token
  ending : Ending
deriving Repr, Inhabited

/-- Words that are no names. -/
def keywords : List String := [
  "False", "None", "True", "and", "as", "assert", "async", "await", "break", "class", "continue",
  "def", "del", "elif", "else", "except", "finally", "for", "from", "global", "if", "import", "in",
  "is", "lambda", "nonlocal", "not", "or", "pass", "raise", "return", "try", "while", "with", "yield"]

/-- The symbols of more than one character, the longest first. -/
def longSymbols : List String := [
  "**=", "//=", ">>=", "<<=", "...", "!=", "->", "**", "//", ">>", "<<", "<=", ">=", "<>", "==", ":=",
  "+=", "-=", "*=", "/=", "%=", "&=", "|=", "^=", "@="]

def symbolChars : List Char := "+-*/%@&|^~<>=.,:;!?$".toList ++ [Char.ofNat 0x60]

def symbolAt (text : List Char) : Option (List Char) :=
  match longSymbols.find? fun word => word.toList.isPrefixOf text with
  | some word => some word.toList
  | none =>
    match text with
    | c :: _ => if symbolChars.contains c then some [c] else none
    | [] => none

/-- The first character of a name that cannot stand where it does. -/
def misplaced? : List Char → Option Char
  | [] => none
  | first :: rest =>
    if Word.startsName first then rest.find? fun c => !Word.continuesName c else some first

def pointText (code : Nat) : String :=
  "U+" ++ String.ofList ((Hex.digits (if code < 0x10000 then 4 else if code < 0x100000 then 5 else 6)
    code).map Char.toUpper)

/-- Why a character cannot stand in an expression. -/
def strayFault (c : Char) : String :=
  if isPrintable c then
    "invalid character '" ++ String.singleton c ++ "' (" ++ pointText c.toNat ++ ")"
  else "invalid non-printable character " ++ pointText c.toNat

/-- What is said of a backslash that ends no line. -/
def looseBackslash : String := "unexpected character after line continuation character"

/-- The blanks before a line: how wide they are with wide and with narrow tabs, and where they end. -/
structure Margin where
  wide : Nat := 0
  narrow : Nat := 0
  held : Nat := 0
  line : Nat
  rest : List Char := []
deriving Repr, DecidableEq, Inhabited

/-- Reads the blanks before a line, unless a backslash there ends no line.  The width before the first
backslash counts, if there is one. -/
def Margin.read (margin : Margin) : List Char → Option Margin
  | ' ' :: rest => { margin with wide := margin.wide + 1, narrow := margin.narrow + 1 }.read rest
  | '\t' :: rest =>
    { margin with wide := (margin.wide / 8 + 1) * 8, narrow := margin.narrow + 1 }.read rest
  | '\x0c' :: rest => { margin with wide := 0, narrow := 0 }.read rest
  | '\\' :: '\n' :: rest =>
    { margin with
      line := margin.line + 1, held := if margin.held = 0 then margin.wide else margin.held }.read rest
  | '\\' :: _ => none
  | rest =>
    if margin.held = 0 then some { margin with rest }
    else some { margin with wide := margin.held, narrow := margin.held, rest }

/-- How far the tokens of a text were found. -/
structure Scan where
  line : Nat
  opened : List Bracket := []
  margins : List (Nat × Nat) := []
  found : List Token := []
deriving Repr, Inhabited

namespace Scan

/-- Adds a token that starts on the current line. -/
def add (scan : Scan) (kind : Kind) : Scan :=
  { scan with found := ⟨kind, scan.line, scan.opened.length, false⟩ :: scan.found }

/-- Adds a token that ends where something else comes, or the end of the text. -/
def addUpTo (scan : Scan) (kind : Kind) (rest : List Char) : Scan :=
  { scan with found := ⟨kind, scan.line, scan.opened.length, rest.isEmpty⟩ :: scan.found }

def down (scan : Scan) (lines : Nat) : Scan := { scan with line := scan.line + lines }

def stop (scan : Scan) (ending : Ending) : Tokens :=
  { found := scan.found.reverse.toArray, ending }

/-- Ends the tokens where the text ends. -/
def finish (scan : Scan) : Tokens :=
  match scan.opened with
  | bracket :: _ => scan.stop (.halted bracket.openMessage (some bracket))
  | [] => (scan.add .finish).stop .finished

/-- Leaves the margins that are wider than a line's. -/
def leave (wide : Nat) (scan : Scan) : List (Nat × Nat) → Scan
  | [] => { scan with margins := [] }
  | margin :: outer =>
    if wide < margin.1 then leave wide (scan.add .dedent) outer
    else { scan with margins := margin :: outer }

/-- Takes the blanks before a line into account, or says why they fit no line before. -/
def indent (scan : Scan) (wide narrow : Nat) : Except String Scan :=
  let current := scan.margins.headD (0, 0)
  let tabs := "inconsistent use of tabs and spaces in indentation"
  if wide = current.1 then if narrow = current.2 then .ok scan else .error tabs
  else if current.1 < wide then
    if narrow ≤ current.2 then .error tabs
    else .ok { scan.add .indent with margins := (wide, narrow) :: scan.margins }
  else
    let left := leave wide scan scan.margins
    let outer := left.margins.headD (0, 0)
    if wide ≠ outer.1 then .error "unindent does not match any outer indentation level"
    else if narrow ≠ outer.2 then .error tabs
    else .ok left

/-- Goes past a bracket, or says why it cannot stand here. -/
def bracket (scan : Scan) (c : Char) (rest : List Char) : Except String Scan :=
  let word : Kind := .word (String.singleton c)
  if c = '(' ∨ c = '\x7b' then
    if maxLevel ≤ scan.opened.length then .error "too many nested parentheses"
    else
      .ok ({ scan with opened := ⟨c, scan.line⟩ :: scan.opened }.addUpTo word rest)
  else
    match scan.opened with
    | [] => .error ("unmatched '" ++ String.singleton c ++ "'")
    | bracket :: outer =>
      if bracket.partner = c then .ok ({ scan with opened := outer }.addUpTo word rest)
      else .error (bracket.mismatch c scan.line)

def wordKind (text : String) : Kind := if keywords.contains text then .word text else .name text

/-- Finds the tokens of the rest of a text.  The last line of the text is `lines`; `isStart` where a
line starts; `template` says why a template that starts on some line cannot be read; `size` bounds the
length of the rest. -/
def run (template : Nat → TextKind → List Char → Option String) (lines : Nat) :
    Nat → Bool → Scan → List Char → Tokens
  | 0, _, scan, _ => scan.finish
  | size + 1, true, scan, text =>
    match Margin.read { line := scan.line } text with
    | none => scan.stop (.halted looseBackslash none)
    | some margin =>
      let scan := { scan with line := margin.line }
      match margin.rest with
      | '\n' :: rest => run template lines size true (scan.down 1) rest
      | '#' :: rest => run template lines size true scan (rest.dropWhile (· ≠ '\n'))
      | [] => scan.finish
      | rest =>
        match scan.indent margin.wide margin.narrow with
        | .error fault => scan.stop (.halted fault none)
        | .ok scan => run template lines size false scan rest
  | _ + 1, false, scan, [] => scan.finish
  | size + 1, false, scan, c :: rest =>
    if c = ' ' ∨ c = '\t' ∨ c = '\x0c' then run template lines size false scan rest
    else if c = '\\' then
      match rest with
      | '\n' :: rest => run template lines size false (scan.down 1) rest
      | _ => scan.stop (.halted looseBackslash scan.opened.head?)
    else if c = '\n' then
      if scan.opened.isEmpty then run template lines size true ((scan.add .newline).down 1) rest
      else run template lines size false (scan.down 1) rest
    else if c = '#' then run template lines size false scan (rest.dropWhile (· ≠ '\n'))
    else if c = '(' ∨ c = ')' ∨ c = '\x7b' ∨ c = '\x7d' then
      match scan.bracket c rest with
      | .error fault => scan.stop (.refused fault)
      | .ok scan => run template lines size false scan rest
    else if c.isDigit || (c == '.' && (rest.head?).any Char.isDigit) then
      match afterNumber (c :: rest) with
      | .error fault => scan.stop (.refused fault)
      | .ok after =>
        let number := (c :: rest).take (rest.length + 1 - after.length)
        let isImaginary := number.getLast?.any fun c => c == 'j' || c == 'J'
        run template lines size false (scan.addUpTo (.number isImaginary (numberFault? number)) after) after
    else
      let word := (c :: rest).takeWhile isNameChar
      let after := (c :: rest).dropWhile isNameChar
      match TextKind.ofLetters? word, after with
      | some kind, '\'' :: after => text size scan kind '\'' after
      | some kind, '"' :: after => text size scan kind '"' after
      | _, _ =>
        if word.isEmpty then
          match symbolAt (c :: rest) with
          | some word =>
            let after := (c :: rest).drop word.length
            run template lines size false (scan.addUpTo (.word (String.ofList word)) after) after
          | none => scan.stop (.refused (strayFault c))
        else
          match misplaced? word with
          | some c => scan.stop (.refused (strayFault c))
          | none => run template lines size false (scan.addUpTo (wordKind (String.ofList word)) after) after
where
  text (size : Nat) (scan : Scan) (kind : TextKind) (quote : Char) (after : List Char) : Tokens :=
    match splitText lines quote after with
    | .error fault => scan.stop (.refused fault)
    | .ok (content, rest) =>
      let fault :=
        if kind.isTemplate then template scan.line kind content else kind.fault? content
      run template lines size false
        ((scan.add (.text kind fault)).down (content.count '\n')) rest

end Scan

/-- A text with every line break written the same way. -/
def unixLines : List Char → List Char
  | '\r' :: '\n' :: rest => '\n' :: unixLines rest
  | '\r' :: rest => '\n' :: unixLines rest
  | c :: rest => c :: unixLines rest
  | [] => []

def tokensFrom (template : Nat → TextKind → List Char → Option String) (line : Nat)
    (text : List Char) : Tokens :=
  Scan.run template (text.count '\n' + line) (2 * text.length + 2) true { line } text

end CallAtlas.Handler
