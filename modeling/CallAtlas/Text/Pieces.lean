import CallAtlas.Text.Basic

/-!
Cutting texts at marks, such as the slashes of a path.
-/

namespace CallAtlas

/-- The pieces of a list between marks; `held` is the piece, backwards, that waits for its end. -/
def piecesFrom {α : Type} [DecidableEq α] (mark : α) (held : List α) : List α → List (List α)
  | [] => [held.reverse]
  | item :: rest =>
    if item = mark then held.reverse :: piecesFrom mark [] rest
    else piecesFrom mark (item :: held) rest

/-- The pieces of a list between marks.  There is always at least one, which may be empty. -/
def pieces {α : Type} [DecidableEq α] (mark : α) (items : List α) : List (List α) :=
  piecesFrom mark [] items

def Text.pieces (mark : Char) (text : Text) : List Text :=
  (CallAtlas.pieces (.char mark) text.points).map .ofPoints

end CallAtlas
