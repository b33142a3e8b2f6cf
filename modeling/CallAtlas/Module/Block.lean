import CallAtlas.Call

/-!
Normalized modules: the function clauses and attributes of a module in source order.
-/

namespace CallAtlas

/-- One function clause and the calls it makes.  Arity and parameter names are missing if nothing
is known of them. -/
structure Clause where
  name : Text
  calls : List Call := []
  arity : Option Int := none
  params : Option (List Text) := none
  defaults : Int := 0
  isPrivate : Bool := false
  position : Option Position := none
deriving Repr, DecidableEq, Inhabited

/-- A module attribute such as `@moduledoc`. -/
structure Attribute where
  key : Text
  value : Term := .null
deriving Repr, DecidableEq, Inhabited

/-- A normalized module. -/
structure Block where
  name : Text
  clauses : List Clause := []
  attributes : List Attribute := []
  position : Option Position := none
deriving Repr, DecidableEq, Inhabited

/-- A whole number that may be missing, as a data value. -/
def intJson (value : Option Int) : Json :=
  match value with
  | some value => .int value
  | none => .null

def Clause.toJson (clause : Clause) : Json :=
  .object [
    ("kind", .text "function"),
    ("name", .text clause.name),
    ("arity", intJson clause.arity),
    ("params",
      match clause.params with
      | some names => .array (names.map .text)
      | none => .null),
    ("defaults", .int clause.defaults),
    ("private", .bool clause.isPrivate),
    ("position", positionJson clause.position),
    ("calls", .array (clause.calls.map Call.toJson))]

def Attribute.toJson (entry : Attribute) : Json :=
  .object [("key", .text entry.key), ("value", entry.value.toPlain)]

namespace Block

/-- The clauses of a function, in source order. -/
def clausesOf (block : Block) (name : Text) : List Clause :=
  block.clauses.filter fun clause => clause.name == name

/-- How many calls all clauses make together. -/
def callCount (block : Block) : Nat :=
  block.clauses.foldr (fun clause count => clause.calls.length + count) 0

/-- What keeps the first call that cannot be written from being written. -/
def textFault? (block : Block) : Option WriteFault :=
  block.clauses.findSome? fun clause => clause.calls.findSome? Call.textFault?

/-- The parts of a normalized module as a data value. -/
def toJson (block : Block) : Json :=
  .object [
    ("kind", .text "module"),
    ("name", .text block.name),
    ("position", positionJson block.position),
    ("attributes", .array (block.attributes.map Attribute.toJson)),
    ("children", .array (block.clauses.map Clause.toJson))]

/-- A normalized module as a data value, if all its calls can be written. -/
def value (block : Block) : Except WriteFault Json := WriteFault.guard block.textFault? block.toJson

end Block

end CallAtlas
