import CallAtlas.Position
import CallAtlas.Text.WriteFault

/-!
Calls found in function bodies.
-/

namespace CallAtlas

/-- A call.  It has no module if it is unqualified, to be resolved against the calling module, or
if it is dynamic: its receiver is known only when the program runs. -/
structure Call where
  name : Text
  arity : Int
  module : Option Text := none
  position : Option Position := none
  dynamic : Bool := false
deriving Repr, DecidableEq, Inhabited

def textJson (value : Option Text) : Json :=
  match value with
  | some value => .text value
  | none => .null

def Call.toJson (call : Call) : Json :=
  .object [
    ("module", textJson call.module),
    ("name", .text call.name),
    ("arity", .int call.arity),
    ("dynamic", .bool call.dynamic),
    ("position", positionJson call.position)]

/-- What keeps a call from being written. -/
def Call.textFault? (call : Call) : Option WriteFault := WriteFault.ofInt? call.arity

end CallAtlas
