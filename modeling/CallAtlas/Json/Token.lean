import CallAtlas.Json.Basic
import CallAtlas.Text.Hex
import CallAtlas.Text.Numeral
import CallAtlas.Text.Units

/-!
The tokens of a JSON text.  A faulty spot is a token of its own, so that a reader meets the faults
of a text in the order in which they stand.
-/

namespace CallAtlas.Json

/-- What a JSON text is made of. -/
inductive Token where
  | openArray
  | closeArray
  | openObject
  | closeObject
  | comma
  | colon
  | scalar (value : Json)
  | oversized (digits : Nat)
  | invalid
deriving Repr, Inhabited

/-- The rest of a text after a word that it starts with. -/
def afterWord : List Char → List Char → Option (List Char)
  | [], rest => some rest
  | _ :: _, [] => none
  | w :: word, c :: rest => if w = c then afterWord word rest else none

def digitsValue (digits : List Char) : Nat :=
  digits.foldl (fun n c => 10 * n + (c.toNat - 48)) 0

/-- The digits after a point, and what follows them. -/
def fraction (text : List Char) : List Char × List Char :=
  match text with
  | '.' :: rest =>
    let digits := rest.takeWhile Char.isDigit
    if digits.isEmpty then ([], text) else (digits, rest.dropWhile Char.isDigit)
  | _ => ([], text)

/-- The exponent after its mark, and what follows it. -/
def exponent (text : List Char) : Option Int × List Char :=
  match text with
  | c :: rest =>
    if c = 'e' ∨ c = 'E' then
      let (negative, rest) : Bool × List Char :=
        match rest with
        | '-' :: more => (true, more)
        | '+' :: more => (false, more)
        | more => (false, more)
      let digits := rest.takeWhile Char.isDigit
      if digits.isEmpty then (none, text)
      else
        let size : Int := digitsValue digits
        (some (if negative then -size else size), rest.dropWhile Char.isDigit)
    else (none, text)
  | [] => (none, text)

/-- The number whose whole part is given, and what follows it. -/
def numberAfter (negative : Bool) (whole rest : List Char) : Token × List Char :=
  let (places, rest) := fraction rest
  let (power, rest) := exponent rest
  if places.isEmpty && power.isNone then
    if Numeral.maxDigits < whole.length then (.oversized whole.length, rest)
    else
      let size : Int := digitsValue whole
      (.scalar (.int (if negative then -size else size)), rest)
  else
    let e : Int := power.getD 0 - places.length
    (.scalar (.decimal (.ofLiteral negative (digitsValue (whole ++ places)) e)), rest)

/-- The number at the start of a text: no zero stands before another digit. -/
def number? (negative : Bool) (text : List Char) : Option (Token × List Char) :=
  match text with
  | [] => none
  | '0' :: rest => some (numberAfter negative ['0'] rest)
  | c :: _ =>
    if c.isDigit then
      some (numberAfter negative (text.takeWhile Char.isDigit) (text.dropWhile Char.isDigit))
    else none

/-- The names of values that are no numbers or texts. -/
def namedValues : List (String × Json) := [
  ("null", .null), ("true", .bool true), ("false", .bool false), ("NaN", .decimal .nan),
  ("Infinity", .decimal (.infinity false)), ("-Infinity", .decimal (.infinity true))]

/-- The value at the start of a word, and what follows it. -/
def wordValue? (word : List Char) : Option (Token × List Char) :=
  match namedValues.findSome? fun entry =>
    (afterWord entry.1.toList word).map fun rest => (Token.scalar entry.2, rest) with
  | some found => some found
  | none =>
    match word with
    | '-' :: rest => number? true rest
    | _ => number? false word

/-- The tokens of a run of word characters: a value, and a fault if something follows it. -/
def wordTokens (word : List Char) : List Token :=
  match wordValue? word with
  | some (token, []) => [token]
  | some (token, _ :: _) => [token, .invalid]
  | none => [.invalid]

/-- Where in a token the reading stands.  Texts are collected backwards, as code units. -/
inductive Mode where
  | between
  | word (chars : List Char)
  | text (units : List Nat)
  | escape (units : List Nat)
  | unit (units : List Nat) (missing : Nat) (value : Nat)
  | broken
deriving Repr, DecidableEq, Inhabited

/-- A reading in progress: the mode, and the finished tokens backwards. -/
structure Lexer where
  mode : Mode := .between
  done : List Token := []
deriving Repr, Inhabited

namespace Lexer

/-- Whether a character can be part of a number or a name. -/
def isWordChar (c : Char) : Bool := c.isAlphanum || c == '-' || c == '+' || c == '.'

/-- Blank, tab, line feed and carriage return separate tokens. -/
def isBlank (c : Char) : Bool := c == ' ' || c == '\t' || c == '\n' || c == '\r'

/-- Ends in a fault: nothing that follows matters. -/
def fail (lexer : Lexer) : Lexer := ⟨.broken, .invalid :: lexer.done⟩

def start (lexer : Lexer) (c : Char) : Lexer :=
  if isBlank c then ⟨.between, lexer.done⟩
  else if c = '[' then ⟨.between, .openArray :: lexer.done⟩
  else if c = ']' then ⟨.between, .closeArray :: lexer.done⟩
  else if c = '\x7b' then ⟨.between, .openObject :: lexer.done⟩
  else if c = '\x7d' then ⟨.between, .closeObject :: lexer.done⟩
  else if c = ',' then ⟨.between, .comma :: lexer.done⟩
  else if c = ':' then ⟨.between, .colon :: lexer.done⟩
  else if c = '"' then ⟨.text [], lexer.done⟩
  else if isWordChar c then ⟨.word [c], lexer.done⟩
  else lexer.fail

/-- The code unit that a character after a backslash stands for. -/
def escaped? (c : Char) : Option Nat :=
  if c = '"' ∨ c = '\\' ∨ c = '/' then some c.toNat
  else if c = 'n' then some 10
  else if c = 'r' then some 13
  else if c = 't' then some 9
  else if c = 'b' then some 8
  else if c = 'f' then some 12
  else none

def step (lexer : Lexer) (c : Char) : Lexer :=
  match lexer.mode with
  | .between => lexer.start c
  | .word chars =>
    if isWordChar c then ⟨.word (c :: chars), lexer.done⟩
    else start ⟨.between, (wordTokens chars.reverse).reverse ++ lexer.done⟩ c
  | .text units =>
    if c = '"' then
      ⟨.between, .scalar (.text (.ofUnits units.reverse)) :: lexer.done⟩
    else if c = '\\' then ⟨.escape units, lexer.done⟩
    else if c.toNat < 0x20 then lexer.fail
    else ⟨.text (c.toNat :: units), lexer.done⟩
  | .escape units =>
    if c = 'u' then ⟨.unit units 4 0, lexer.done⟩
    else
      match escaped? c with
      | some unit => ⟨.text (unit :: units), lexer.done⟩
      | none => lexer.fail
  | .unit units missing value =>
    match Hex.value? c with
    | none => lexer.fail
    | some digit =>
      let value := 16 * value + digit
      if missing ≤ 1 then ⟨.text (value :: units), lexer.done⟩
      else ⟨.unit units (missing - 1) value, lexer.done⟩
  | .broken => lexer

/-- The tokens read, once the text has ended. -/
def finish (lexer : Lexer) : List Token :=
  match lexer.mode with
  | .between => lexer.done.reverse
  | .word chars => lexer.done.reverse ++ wordTokens chars.reverse
  | .broken => lexer.done.reverse
  | _ => (Token.invalid :: lexer.done).reverse

end Lexer

def tokens (text : List Char) : List Token := (text.foldl Lexer.step {}).finish

end CallAtlas.Json
