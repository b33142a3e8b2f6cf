import CallAtlas.Text.Dotted

/-!
Cutting a dotted name into segments and joining them again.  Cutting loses nothing: the segments of
a name, of which there is at least one, join to the name.
-/

namespace CallAtlas

section Pieces

variable {α : Type} [DecidableEq α]

/-- Cutting at a mark is splitting on it; the piece that waits for its end is the beginning. -/
theorem piecesFrom_eq_splitOnPPrepend (mark : α) (held items : List α) :
    piecesFrom mark held items = List.splitOnPPrepend (· == mark) items held := by
  induction items generalizing held with
  | nil => rw [piecesFrom, List.splitOnPPrepend_nil]
  | cons item rest ih =>
      rw [piecesFrom, ih, ih, List.splitOnPPrepend_cons_eq_if]
      simp [List.splitOnPPrepend_nil_right]

theorem pieces_eq_splitOn (mark : α) (items : List α) : pieces mark items = items.splitOn mark := by
  rw [pieces, piecesFrom_eq_splitOnPPrepend, List.splitOnPPrepend_nil_right, List.splitOn]

end Pieces

namespace Text

/-- A text in front of joined texts belongs to the first of them. -/
theorem append_joined (front between first : Text) (rest : List Text) :
    front ++ joined between (first :: rest) = joined between ((front ++ first) :: rest) := by
  induction rest generalizing first with
  | nil => rfl
  | cons second rest ih =>
      have hstep := ih (first ++ between ++ second)
      simpa only [joined, List.foldl_cons, append_assoc] using hstep

theorem joined_cons_cons (between first second : Text) (rest : List Text) :
    joined between (first :: second :: rest) =
      first ++ between ++ joined between (second :: rest) := by
  rw [append_joined]
  rfl

theorem points_joined (between : Text) (texts : List Text) :
    (joined between texts).points = between.points.intercalate (texts.map points) := by
  induction texts with
  | nil => rfl
  | cons first rest ih =>
      cases rest with
      | nil => simp [joined]
      | cons second rest => simp [joined_cons_cons, ih, List.intercalate_cons_cons]

end Text

namespace Dotted

theorem points_segments (name : Text) :
    (segments name).map Text.points = name.points.splitOn (.char '.') := by
  simp [segments, Text.pieces, pieces_eq_splitOn, Function.comp_def]

theorem segments_ne_nil (name : Text) : segments name ≠ [] := by
  intro hnil
  have hpoints := points_segments name
  rw [hnil, List.map_nil] at hpoints
  exact List.splitOn_ne_nil _ _ hpoints.symm

/-- The segments of a name join to the name. -/
theorem join_segments (name : Text) : join (segments name) = name := by
  apply Text.points_injective
  have hdot : Text.points "." = [.char '.'] := by decide
  rw [join, Text.points_joined, points_segments, hdot, List.intercalate_splitOn]

theorem join_cons_cons (first second : Text) (rest : List Text) :
    join (first :: second :: rest) = first ++ "." ++ join (second :: rest) :=
  Text.joined_cons_cons "." first second rest

theorem join_append {front back : List Text} (hfront : front ≠ []) (hback : back ≠ []) :
    join (front ++ back) = join front ++ "." ++ join back := by
  induction front with
  | nil => exact absurd rfl hfront
  | cons first rest ih =>
      cases rest with
      | nil =>
          obtain ⟨next, others, rfl⟩ := List.exists_cons_of_ne_nil hback
          exact join_cons_cons first next others
      | cons second rest =>
          rw [List.cons_append, List.cons_append, join_cons_cons, join_cons_cons,
            ← List.cons_append, ih (by simp)]
          simp only [Text.append_assoc]

/-- A dotted name before segments may be cut into its own. -/
theorem join_segments_append (name : Text) (rest : List Text) :
    join (segments name ++ rest) = join (name :: rest) := by
  cases rest with
  | nil =>
      rw [List.append_nil, join_segments]
      rfl
  | cons next others =>
      rw [join_append (segments_ne_nil name) (by simp), join_segments, join_cons_cons]

end Dotted

end CallAtlas
