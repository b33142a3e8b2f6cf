import CallAtlas.Text.Basic

/-!
UTF-16 code units.  A character past U+FFFF has two units, a surrogate pair; a half that stands alone
is a unit of its own.
-/

namespace CallAtlas

namespace Units

def ofChar (c : Char) : List Nat :=
  if c.toNat < 0x10000 then [c.toNat]
  else [0xd800 + (c.toNat - 0x10000) / 0x400, 0xdc00 + (c.toNat - 0x10000) % 0x400]

def isFirst (unit : Nat) : Bool := 0xd800 ≤ unit && unit < 0xdc00

def isSecond (unit : Nat) : Bool := 0xdc00 ≤ unit && unit < 0xe000

def single (unit : Nat) : Point :=
  match Half.ofCode? unit with
  | some half => .half half
  | none => .char (Char.ofNat unit)

/-- The code points of some units: pairs are joined, other halves stand alone. -/
def toPoints : List Nat → List Point
  | [] => []
  | [unit] => [single unit]
  | unit :: next :: rest =>
    if isFirst unit && isSecond next then
      .char (Char.ofNat (0x10000 + (unit - 0xd800) * 0x400 + (next - 0xdc00))) :: toPoints rest
    else single unit :: toPoints (next :: rest)

end Units

def Text.units : Text → List Nat
  | .plain chars => chars.toList.flatMap Units.ofChar
  | .broken chars half rest => chars.toList.flatMap Units.ofChar ++ half.code :: rest.units

def Text.ofUnits (units : List Nat) : Text := .ofPoints (Units.toPoints units)

end CallAtlas
