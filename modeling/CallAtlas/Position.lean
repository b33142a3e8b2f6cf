import CallAtlas.Term.Coding

/-!
Source positions, read from the metadata of a quoted node.  Line and column are kept as the metadata
holds them, `null` standing for a missing one.
-/

namespace CallAtlas

/-- The place of a node in its source. -/
structure Position where
  line : Term := .null
  column : Term := .null
deriving Repr, DecidableEq, Inhabited

namespace Position

/-- The position in a node's metadata, if it gives a line or a column. -/
def ofMeta (info : Term) : Option Position :=
  let line := info.keyword "line"
  let column := info.keyword "column"
  if line.isNull && column.isNull then none else some ⟨line, column⟩

/-- A position in words: the line, or line and column, or a question mark. -/
def text (position : Position) : Text :=
  if position.line.isNull then "?"
  else if position.column.isNull then position.line.toLiteral.display
  else position.line.toLiteral.display ++ ":" ++ position.column.toLiteral.display

def toJson (position : Position) : Json :=
  .object [("line", position.line.toPlain), ("column", position.column.toPlain)]

end Position

def positionJson (position : Option Position) : Json :=
  match position with
  | some position => position.toJson
  | none => .null

end CallAtlas
