import CallAtlas.Decimal
import CallAtlas.Text.Quoted

/-!
Values as messages show them: `None`, `True`, quoted texts, `[1, 2]`, `(1,)`, `{'a': 1}`.  Quoted
trees and data values are both shown this way.
-/

namespace CallAtlas

/-- A value to be shown. -/
inductive Literal where
  | null
  | bool (value : Bool)
  | int (value : Int)
  | decimal (value : Decimal)
  | text (value : Text)
  | list (items : List Literal)
  | tuple (items : List Literal)
  | record (fields : List (Text × Literal))
deriving Repr, Inhabited

namespace Literal

def commas (texts : List String) : String := ", ".intercalate texts

mutual
/-- The value as it would be written: texts are quoted. -/
def render : Literal → String
  | .null => "None"
  | .bool value => if value then "True" else "False"
  | .int value => toString value
  | .decimal value => value.text
  | .text value => Quoted.encode value
  | .list items => "[" ++ commas (renderAll items) ++ "]"
  | .tuple items =>
    match items with
    | [item] => "(" ++ item.render ++ ",)"
    | items => "(" ++ commas (renderAll items) ++ ")"
  | .record fields => "\x7b" ++ commas (renderFields fields) ++ "\x7d"

def renderAll : List Literal → List String
  | [] => []
  | item :: rest => item.render :: renderAll rest

def renderFields : List (Text × Literal) → List String
  | [] => []
  | (key, value) :: rest => (Quoted.encode key ++ ": " ++ value.render) :: renderFields rest
end

/-- The value as plain text: a text stands for itself, all else as `render` writes it. -/
def display : Literal → Text
  | .text value => value
  | literal => literal.render

/-- The word for the kind of a value. -/
def kind : Literal → String
  | .null => "NoneType"
  | .bool _ => "bool"
  | .int _ => "int"
  | .decimal _ => "float"
  | .text _ => "str"
  | .list _ => "list"
  | .tuple _ => "tuple"
  | .record _ => "dict"

/-- Cuts a text to sixty characters, the last three of a cut text being dots. -/
def shorten (text : String) : String :=
  if text.length ≤ 60 then text else String.ofList (text.toList.take 57) ++ "..."

end Literal

end CallAtlas
