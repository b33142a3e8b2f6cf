import CallAtlas.Text.Numeral
import CallAtlas.Text.Stray

/-!
Why something cannot be written.
-/

namespace CallAtlas

/-- A number with too many digits, or halves that keep a text from being UTF-8. -/
inductive WriteFault where
  | oversized
  | stray (cause : Stray)
deriving Repr, DecidableEq, Inhabited

namespace WriteFault

def message : WriteFault → String
  | .oversized => Numeral.writeMessage
  | .stray cause => cause.message

/-- What keeps a number from being written. -/
def ofInt? (value : Int) : Option WriteFault :=
  if Numeral.isOversized value then some .oversized else none

/-- What keeps a text from being written. -/
def ofText? (text : Text) : Option WriteFault := text.stray?.map .stray

/-- A value that is written, unless something keeps it from being written. -/
def guard {α : Type} (fault : Option WriteFault) (value : α) : Except WriteFault α :=
  match fault with
  | some fault => .error fault
  | none => .ok value

end WriteFault

end CallAtlas
