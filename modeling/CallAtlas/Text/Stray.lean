import CallAtlas.Text.Basic
import CallAtlas.Text.Hex

/-!
Texts as UTF-8.  A half that stands alone is no character, so a text that holds one cannot be written
as UTF-8; what is in the way is the first row of halves.
-/

namespace CallAtlas

def Half.text (half : Half) : List Char := '\\' :: 'u' :: Hex.digits 4 half.code

/-- Halves in a row, and the place of the first of them. -/
structure Stray where
  position : Nat
  halves : List Half
deriving Repr, DecidableEq, Inhabited

namespace Stray

def message (stray : Stray) : String :=
  let place :=
    match stray.halves with
    | [half] =>
      "character '" ++ String.ofList half.text ++ "' in position " ++ toString stray.position
    | halves =>
      "characters in position " ++ toString stray.position ++ "-"
        ++ toString (stray.position + halves.length - 1)
  "'utf-8' codec can't encode " ++ place ++ ": surrogates not allowed"

/-- The halves that come first in a row. -/
def leading : List Point → List Half
  | .half value :: rest => value :: leading rest
  | _ => []

/-- The halves in a row from the first that is not allowed on, among points of which the first has the
given place. -/
def find? (allowed : Half → Bool) (position : Nat) : List Point → Option Stray
  | [] => none
  | .char _ :: rest => find? allowed (position + 1) rest
  | .half value :: rest =>
    if allowed value then find? allowed (position + 1) rest
    else some { position, halves := leading (.half value :: rest) }

end Stray

namespace Text

/-- What keeps a text from being written as UTF-8. -/
def stray? (text : Text) : Option Stray := Stray.find? (fun _ => false) 0 text.points

/-- What keeps a text from being passed to the system, where a half from U+DC80 to U+DCFF stands for
a byte that is no UTF-8. -/
def systemStray? (text : Text) : Option Stray :=
  Stray.find? (fun half => 0xdc80 ≤ half.code && half.code ≤ 0xdcff) 0 text.points

/-- A text in which the halves that stand alone are spelled out. -/
def spelledOut : Text → String
  | .plain chars => chars
  | .broken chars half rest => chars ++ String.ofList half.text ++ rest.spelledOut

/-- The bytes of a text.  A half has three, as any other code point of its size. -/
def bytes : Text → List UInt8
  | .plain chars => chars.toUTF8.toList
  | .broken chars half rest =>
    chars.toUTF8.toList
      ++ [0xed, UInt8.ofNat (0x80 + half.code / 64 % 64), UInt8.ofNat (0x80 + half.code % 64)]
      ++ rest.bytes

end Text

end CallAtlas
