import CallAtlas.Literal
import CallAtlas.Table

/-!
Data values: the trees that JSON texts stand for.  Whole numbers and numbers with a fractional part
are different values; the fields of an object keep the order in which they were written.
-/

namespace CallAtlas

/-- A data value. -/
inductive Json where
  | null
  | bool (value : Bool)
  | int (value : Int)
  | decimal (value : Decimal)
  | text (value : Text)
  | array (items : List Json)
  | object (fields : List (Text × Json))
deriving Repr, Inhabited

namespace Json

def field? (value : Json) (key : Text) : Option Json :=
  match value with
  | .object fields => Table.find key fields
  | _ => none

mutual
/-- How messages show a data value. -/
def toLiteral : Json → Literal
  | .null => .null
  | .bool value => .bool value
  | .int value => .int value
  | .decimal value => .decimal value
  | .text value => .text value
  | .array items => .list (toLiterals items)
  | .object fields => .record (toRecord fields)

def toLiterals : List Json → List Literal
  | [] => []
  | item :: rest => item.toLiteral :: toLiterals rest

def toRecord : List (Text × Json) → List (Text × Literal)
  | [] => []
  | (key, value) :: rest => (key, value.toLiteral) :: toRecord rest
end

end Json

end CallAtlas
