import CallAtlas.Text.Printable
import CallAtlas.Text.Stray

/-!
Texts in quotes, as they stand in messages.  The quote is the single one unless the text holds a
single quote and no double quote; what cannot be shown is written by its code point.
-/

namespace CallAtlas.Quoted

def quoteFor (text : List Point) : Char :=
  if text.contains (.char '\'') && !text.contains (.char '"') then '"' else '\''

def escape (quote c : Char) : List Char :=
  if c = '\\' then ['\\', '\\']
  else if c = quote then ['\\', c]
  else if c = '\n' then ['\\', 'n']
  else if c = '\r' then ['\\', 'r']
  else if c = '\t' then ['\\', 't']
  else if isPrintable c then [c]
  else if c.toNat < 0x100 then '\\' :: 'x' :: Hex.digits 2 c.toNat
  else if c.toNat < 0x10000 then '\\' :: 'u' :: Hex.digits 4 c.toNat
  else '\\' :: 'U' :: Hex.digits 8 c.toNat

/-- One code point between quotes; half of a surrogate pair cannot be shown. -/
def escapePoint (quote : Char) : Point → List Char
  | .char c => escape quote c
  | .half value => value.text

def encode (text : Text) : String :=
  let points := text.points
  let quote := quoteFor points
  String.ofList (quote :: points.flatMap (escapePoint quote) ++ [quote])

end CallAtlas.Quoted
