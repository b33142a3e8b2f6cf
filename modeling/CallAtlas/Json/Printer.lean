import CallAtlas.Json.Basic
import CallAtlas.Text.Hex
import CallAtlas.Text.Units

/-!
The text of a data value.  Texts are written with ASCII characters only; an array or object stands
on one line, or has each item on a line of its own.
-/

namespace CallAtlas.Json

/-- How the items of arrays and objects are laid out. -/
inductive Layout where
  | oneLine
  | lines (indent : Nat)
deriving Repr, DecidableEq

/-- What comes before the first item, and before the closing bracket. -/
def Layout.break (layout : Layout) (level : Nat) : String :=
  match layout with
  | .oneLine => ""
  | .lines indent => String.ofList ('\n' :: List.replicate (indent * level) ' ')

def Layout.between (layout : Layout) (level : Nat) : String :=
  match layout with
  | .oneLine => ", "
  | .lines _ => "," ++ layout.break level

/-- A code unit of a text. -/
def escapeUnit (unit : Nat) : String :=
  if unit = 0x22 then "\\\""
  else if unit = 0x5c then "\\\\"
  else if unit = 10 then "\\n"
  else if unit = 13 then "\\r"
  else if unit = 9 then "\\t"
  else if unit = 8 then "\\b"
  else if unit = 12 then "\\f"
  else if 0x20 ≤ unit ∧ unit < 0x7f then String.singleton (Char.ofNat unit)
  else String.ofList ('\\' :: 'u' :: Hex.digits 4 unit)

/-- Adds code units to what was written. -/
def writeUnits (out : String) (units : List Nat) : String :=
  units.foldl (fun out unit => out ++ escapeUnit unit) out

/-- Adds a text between double quotes to what was written. -/
def writeText (out : String) (text : Text) : String :=
  (writeUnits (out.push '"') text.units).push '"'

mutual
/-- Adds a value, whose line is indented to `level`, to what was written. -/
def write (layout : Layout) (level : Nat) (out : String) : Json → String
  | .null => out ++ "null"
  | .bool value => out ++ (if value then "true" else "false")
  | .int value => out ++ toString value
  | .decimal value => out ++ value.dataText
  | .text value => writeText out value
  | .array [] => out ++ "[]"
  | .array (item :: rest) =>
    let out := write layout (level + 1) (out ++ "[" ++ layout.break (level + 1)) item
    writeItems layout level out rest ++ layout.break level ++ "]"
  | .object [] => out ++ "\x7b\x7d"
  | .object ((key, value) :: rest) =>
    let out := writeText (out ++ "\x7b" ++ layout.break (level + 1)) key ++ ": "
    writeFields layout level (write layout (level + 1) out value) rest ++ layout.break level ++ "\x7d"

def writeItems (layout : Layout) (level : Nat) (out : String) : List Json → String
  | [] => out
  | item :: rest =>
    writeItems layout level (write layout (level + 1) (out ++ layout.between (level + 1)) item) rest

def writeFields (layout : Layout) (level : Nat) (out : String) : List (Text × Json) → String
  | [] => out
  | (key, value) :: rest =>
    let out := writeText (out ++ layout.between (level + 1)) key ++ ": "
    writeFields layout level (write layout (level + 1) out value) rest
end

def render (layout : Layout) (value : Json) : String := write layout 0 "" value

end CallAtlas.Json
