import CallAtlas.Text.Hex

/-!
Reading bytes as UTF-8.  Bytes that are no UTF-8 have a first fault: a byte that starts no character, a
byte that does not go on with the character before it, or a character that the end cuts off.
-/

namespace CallAtlas.Utf8

inductive Reason where
  | badStart
  | badContinuation
  | cutOff
deriving Repr, DecidableEq, Inhabited

def Reason.message : Reason → String
  | .badStart => "invalid start byte"
  | .badContinuation => "invalid continuation byte"
  | .cutOff => "unexpected end of data"

/-- The bytes of a character that is not well formed, as far as they fit, and their place. -/
structure Fault where
  position : Nat
  bytes : List UInt8
  reason : Reason
deriving Repr, DecidableEq, Inhabited

def Fault.message (fault : Fault) : String :=
  let place :=
    match fault.bytes with
    | [byte] =>
      "byte 0x" ++ String.ofList (Hex.digits 2 byte.toNat) ++ " in position "
        ++ toString fault.position
    | bytes =>
      "bytes in position " ++ toString fault.position ++ "-"
        ++ toString (fault.position + bytes.length - 1)
  "'utf-8' codec can't decode " ++ place ++ ": " ++ fault.reason.message

/-- The bounds of the bytes that follow the first byte of a character; none for a byte that starts no
character. -/
def due (first : Nat) : Option (List (Nat × Nat)) :=
  let any := (0x80, 0xbf)
  if first < 0x80 then some []
  else if first < 0xc2 then none
  else if first < 0xe0 then some [any]
  else if first < 0xf0 then
    some [(if first = 0xe0 then 0xa0 else 0x80, if first = 0xed then 0x9f else 0xbf), any]
  else if first < 0xf5 then
    some [(if first = 0xf0 then 0x90 else 0x80, if first = 0xf4 then 0x8f else 0xbf), any, any]
  else none

/-- How many of the bytes due come next, and why it is not all of them. -/
def taken : List (Nat × Nat) → List UInt8 → Nat × Option Reason
  | [], _ => (0, none)
  | _ :: _, [] => (0, some .cutOff)
  | (low, high) :: more, byte :: rest =>
    if low ≤ byte.toNat ∧ byte.toNat ≤ high then
      let (count, reason) := taken more rest
      (count + 1, reason)
    else (0, some .badContinuation)

/-- The first fault of bytes, of which the first has the given place; `size` bounds their number. -/
def fault? (position : Nat) : Nat → List UInt8 → Option Fault
  | 0, _ => none
  | _ + 1, [] => none
  | size + 1, first :: rest =>
    match due first.toNat with
    | none => some { position, bytes := [first], reason := .badStart }
    | some bounds =>
      match taken bounds rest with
      | (count, some reason) => some { position, bytes := first :: rest.take count, reason }
      | (count, none) => fault? (position + 1 + count) size (rest.drop count)

def read (bytes : ByteArray) : Except Fault String :=
  match String.fromUTF8? bytes with
  | some text => .ok text
  | none => .error ((fault? 0 bytes.size bytes.toList).getD default)

end CallAtlas.Utf8
