import CallAtlas.Text.Blank
import CallAtlas.Text.Numeral

/-!
Whole numbers as people write them: `12`, `+007`, `1_000`, `5.00`.  Blanks around the number, zeros
before it and zeros after a point are passed over, and single underscores may stand between digits.
-/

namespace CallAtlas.Whole

inductive Fault where
  | unreadable
  | oversized
deriving Repr, DecidableEq, Inhabited

/-- The text after a leading zero, without the zeros and underscores that follow it.  A number or a
minus sign must come next; if a point comes, or nothing, `last` before it is kept. -/
def afterZero (last : Char) : List Char → Option (List Char)
  | [] => some [last]
  | c :: rest =>
    if c = '0' ∨ c = '_' then afterZero c rest
    else if c = '.' then some (last :: c :: rest)
    else if c.isDigit ∨ c = '-' then some (c :: rest)
    else none

/-- A text without the zeros before its number, if it starts with a digit or a minus sign. -/
def dropZeros : List Char → Option (List Char)
  | [] => none
  | c :: rest =>
    if c = '0' then afterZero c rest
    else if c.isDigit ∨ c = '-' then some (c :: rest)
    else none

/-- A text without the point and the zeros that end it. -/
def dropPlaces (text : List Char) : List Char :=
  match text.dropWhile (· ≠ '.') with
  | _ :: c :: rest => if (c :: rest).all (· == '0') then text.takeWhile (· ≠ '.') else text
  | _ => text

/-- A list of digits without the underscores between them.  Two underscores in a row, or one at an
end, are refused, as is any other character. -/
def digits? : List Char → Option (List Char)
  | [] => none
  | [c] => if c.isDigit then some [c] else none
  | c :: '_' :: rest => if c.isDigit then (digits? rest).map (c :: ·) else none
  | c :: rest => if c.isDigit then (digits? rest).map (c :: ·) else none

def value (digits : List Char) : Nat := digits.foldl (fun n c => 10 * n + (c.toNat - 48)) 0

/-- A text without blanks at its ends and without a plus sign before its number. -/
def unsigned (text : List Char) : Option (List Char) :=
  match Blank.trim Blank.isWhite text with
  | '+' :: '-' :: _ => none
  | '+' :: rest => some rest
  | rest => some rest

/-- The sign and the digits of a text. -/
def parts? (text : List Char) : Option (Bool × List Char) := do
  let body ← dropZeros (← unsigned text)
  match body with
  | '-' :: rest =>
    match ← dropZeros rest with
    | '-' :: _ => none
    | size => pure (true, ← digits? (dropPlaces size))
  | size => pure (false, ← digits? (dropPlaces size))

def read (text : String) : Except Fault Int :=
  match parts? text.toList with
  | none => .error .unreadable
  | some (negative, digits) =>
    if Numeral.maxDigits < digits.length then .error .oversized
    else .ok (if negative then -(value digits : Int) else value digits)

end CallAtlas.Whole
