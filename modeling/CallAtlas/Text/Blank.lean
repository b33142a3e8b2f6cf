import CallAtlas.Text.Basic

/-!
White space, and texts without it at their ends.
-/

namespace CallAtlas.Blank

/-- The characters of Unicode that have the property White_Space. -/
def isWhite (c : Char) : Bool :=
  let code := c.toNat
  (9 ≤ code && code ≤ 13) || code == 0x20 || code == 0x85 || code == 0xa0 || code == 0x1680
    || (0x2000 ≤ code && code ≤ 0x200a) || code == 0x2028 || code == 0x2029 || code == 0x202f
    || code == 0x205f || code == 0x3000

/-- White space and the four separators of files, groups, records and units. -/
def isSpace (c : Char) : Bool := isWhite c || (0x1c ≤ c.toNat && c.toNat ≤ 0x1f)

variable {α : Type} (blank : α → Bool)

def trimEnd (items : List α) : List α := (items.reverse.dropWhile blank).reverse

def trim (items : List α) : List α := trimEnd blank (items.dropWhile blank)

/-- The words of a list, cut at every run of blanks; `held` is a word, backwards, that waits for its
end. -/
def wordsFrom (held : List α) : List α → List (List α)
  | [] => if held.isEmpty then [] else [held.reverse]
  | item :: rest =>
    if blank item then
      if held.isEmpty then wordsFrom [] rest else held.reverse :: wordsFrom [] rest
    else wordsFrom (item :: held) rest

/-- The words of a list, none of them empty. -/
def words (items : List α) : List (List α) := wordsFrom blank [] items

end CallAtlas.Blank

namespace CallAtlas.Text

/-- A text without white space at its ends. -/
def trimmed (text : Text) : Text := .ofPoints (Blank.trim (Point.passes Blank.isSpace) text.points)

def words (text : Text) : List Text :=
  (Blank.words (Point.passes Blank.isSpace) text.points).map .ofPoints

end CallAtlas.Text
