import CallAtlas.Json.Basic
import CallAtlas.Term.Basic
import CallAtlas.Text.Sorted

/-!
Quoted trees as data values.  A tuple becomes an object with the single key `tuple`; everything else
stands for itself.  No other object is the code of a tree.
-/

namespace CallAtlas.Term

/-- The key under which the items of a tuple stand. -/
def tupleKey : Text := "tuple"

mutual
/-- The data value of a quoted tree. -/
def encode : Term → Json
  | .null => .null
  | .bool value => .bool value
  | .int value => .int value
  | .decimal value => .decimal value
  | .text value => .text value
  | .list items => .array (encodeAll items)
  | .tuple items => .object [(tupleKey, .array (encodeAll items))]

def encodeAll : List Term → List Json
  | [] => []
  | item :: rest => item.encode :: encodeAll rest
end

/-- An object that is no tuple, by its keys in order. -/
structure UnexpectedObject where
  keys : List Text
deriving Repr, DecidableEq, Inhabited

def UnexpectedObject.message (fault : UnexpectedObject) : Text :=
  "Unexpected JSON object in quoted tree: " ++ (Literal.list (fault.keys.map .text)).render

mutual
/-- The quoted tree of a data value; refuses the first object that is no tuple. -/
def decode : Json → Except UnexpectedObject Term
  | .null => .ok .null
  | .bool value => .ok (.bool value)
  | .int value => .ok (.int value)
  | .decimal value => .ok (.decimal value)
  | .text value => .ok (.text value)
  | .array items => (decodeAll items).map .list
  | .object [(key, .array items)] =>
    if key = tupleKey then (decodeAll items).map .tuple else .error ⟨[key]⟩
  | .object fields => .error ⟨sortNames (fields.map Prod.fst)⟩

def decodeAll : List Json → Except UnexpectedObject (List Term)
  | [] => .ok []
  | item :: rest => do
    let item ← decode item
    let rest ← decodeAll rest
    pure (item :: rest)
end

mutual
/-- A quoted tree as a plain data value in which tuples are arrays too. -/
def toPlain : Term → Json
  | .null => .null
  | .bool value => .bool value
  | .int value => .int value
  | .decimal value => .decimal value
  | .text value => .text value
  | .list items | .tuple items => .array (toPlainAll items)

def toPlainAll : List Term → List Json
  | [] => []
  | item :: rest => item.toPlain :: toPlainAll rest
end

end CallAtlas.Term
