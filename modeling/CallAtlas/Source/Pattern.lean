import CallAtlas.Text.Basic

/-!
Name patterns: `*` stands for any text, `?` for one code point, `[abc]`, `[a-z]` and `[!a]` for
one code point of a set.  A bracket that is never closed stands for itself.
-/

namespace CallAtlas

/-- Part of a pattern.  A set is a list of ranges of code points. -/
inductive Glob where
  | star
  | any
  | exactly (own : Point)
  | set (negated : Bool) (ranges : List (Point × Point))
deriving Repr, DecidableEq, Inhabited

namespace Glob

/-- The ranges of a set: `a-z` is a range, any other code point stands for itself. -/
def ranges : List Point → List (Point × Point)
  | low :: .char '-' :: high :: rest => (low, high) :: ranges rest
  | point :: rest => (point, point) :: ranges rest
  | [] => []

/-- The set of some ranges.  Ranges that hold nothing are left out first; an exclamation mark that
comes to stand in front this way negates, and a range it began falls apart. -/
def ofRanges (negated : Bool) (ranges : List (Point × Point)) : Glob :=
  let held := ranges.filter fun (low, high) => low.code ≤ high.code
  match negated, held with
  | false, (.char '!', .char '!') :: rest => .set true rest
  | false, (.char '!', high) :: rest => .set true ((.char '-', .char '-') :: (high, high) :: rest)
  | negated, held => .set negated held

/-- The set after an opening bracket, and what follows it.  A closing bracket that comes first is a
member of the set. -/
def set? (pattern : List Point) : Option (Glob × List Point) :=
  let (negated, body) : Bool × List Point :=
    match pattern with
    | .char '!' :: rest => (true, rest)
    | rest => (false, rest)
  let (first, body) : List Point × List Point :=
    match body with
    | .char ']' :: rest => ([.char ']'], rest)
    | rest => ([], rest)
  match body.dropWhile (· ≠ .char ']') with
  | [] => none
  | _ :: rest => some (ofRanges negated (ranges (first ++ body.takeWhile (· ≠ .char ']'))), rest)

/-- The parts of a pattern; each part takes at least one of its `size` code points. -/
def parse : Nat → List Point → List Glob
  | 0, _ => []
  | _ + 1, [] => []
  | size + 1, point :: rest =>
    if point = .char '*' then .star :: parse size rest
    else if point = .char '?' then .any :: parse size rest
    else if point = .char '[' then
      match set? rest with
      | some (part, rest) => part :: parse size rest
      | none => .exactly point :: parse size rest
    else .exactly point :: parse size rest

/-- Whether a part other than a star stands for this code point. -/
def accepts (point : Point) : Glob → Bool
  | .star => false
  | .any => true
  | .exactly own => own == point
  | .set negated ranges =>
    (ranges.any fun (low, high) => low.code ≤ point.code && point.code ≤ high.code) != negated

/-- For each end piece of the parts, the whole first, whether it stands for the empty text. -/
def emptyRow : List Glob → List Bool
  | [] => [true]
  | part :: parts =>
    let row := emptyRow parts
    (part == .star && row.headD false) :: row

/-- For each end piece of the parts, whether it stands for a code point and a text after it, from
the row of that text.  A star takes the code point and stays, or takes nothing. -/
def nextRow (point : Point) : List Glob → List Bool → List Bool
  | [], _ => [false]
  | part :: parts, before =>
    let row := nextRow point parts before.tail
    let here :=
      if part = .star then before.headD false || row.headD false
      else part.accepts point && before.tail.headD false
    here :: row

/-- Whether parts stand for a whole text: one row for each code point, from the last one back. -/
def covers (parts : List Glob) (text : List Point) : Bool :=
  (text.foldr (fun point row => nextRow point parts row) (emptyRow parts)).headD false

end Glob

def fitsPattern (pattern name : Text) : Bool :=
  Glob.covers (Glob.parse pattern.length pattern.points) name.points

end CallAtlas
