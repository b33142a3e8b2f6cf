/-!
Texts as data holds them.  A text is a sequence of code points: characters, and halves of surrogate
pairs, which are no characters and stand alone.  Most texts have characters only; a string literal is
such a text.

The view of a text is the list of its code points: every text is given by its points, and every list
of points is that of a text.
-/

namespace CallAtlas

/-- Half of a surrogate pair, by its place among the 2048 halves.  Those from 1024 on are second
halves. -/
abbrev Half := Fin 0x800

namespace Half

def code (half : Half) : Nat := 0xd800 + half.val

/-- The half with this code point. -/
def ofCode? (code : Nat) : Option Half :=
  if h : 0xd800 ≤ code ∧ code < 0xe000 then some ⟨code - 0xd800, by omega⟩ else none

/-- Whether this is the first half of a pair. -/
def isFirst (half : Half) : Bool := half.val < 0x400

end Half

inductive Point where
  | char (c : Char)
  | half (value : Half)
deriving Repr, DecidableEq, Inhabited

namespace Point

def code : Point → Nat
  | .char c => c.toNat
  | .half value => value.code

/-- Whether a point is a character that passes a test. -/
def passes (test : Char → Bool) : Point → Bool
  | .char c => test c
  | .half _ => false

end Point

/-- A text: characters, or characters, a half that stands alone, and the text after it. -/
inductive Text where
  | plain (chars : String)
  | broken (chars : String) (half : Half) (rest : Text)
deriving Repr, DecidableEq

instance : Coe String Text := ⟨Text.plain⟩

instance : Inhabited Text := ⟨.plain ""⟩

namespace Text

def append : Text → Text → Text
  | .plain chars, .plain others => .plain (chars ++ others)
  | .plain chars, .broken others half rest => .broken (chars ++ others) half rest
  | .broken chars half rest, text => .broken chars half (append rest text)

instance : Append Text := ⟨append⟩

def points : Text → List Point
  | .plain chars => chars.toList.map .char
  | .broken chars half rest => chars.toList.map .char ++ .half half :: rest.points

/-- The start of a text: its first characters, and the half that ends them with what follows. -/
structure Front where
  chars : List Char := []
  tail : Option (Half × Text) := none

namespace Front

def text (front : Front) : Text :=
  match front.tail with
  | none => .plain (String.ofList front.chars)
  | some (half, rest) => .broken (String.ofList front.chars) half rest

def cons (point : Point) (front : Front) : Front :=
  match point with
  | .char c => { front with chars := c :: front.chars }
  | .half half => { tail := some (half, front.text) }

end Front

def ofPoints (points : List Point) : Text := (points.foldr Front.cons {}).text

def ofPoint : Point → Text
  | .char c => .plain (String.singleton c)
  | .half half => .broken "" half ""

/-- The characters of a text that has nothing else. -/
def string? : Text → Option String
  | .plain chars => some chars
  | .broken _ _ _ => none

/-- The numbers of the code points of a text, by which texts are sorted. -/
def codes (text : Text) : List Nat := text.points.map Point.code

/-- How many code points a text has. -/
def length : Text → Nat
  | .plain chars => chars.length
  | .broken chars _ rest => chars.length + 1 + rest.length

def isEmpty (text : Text) : Bool := text == ""

def startsWith (text front : Text) : Bool := front.points.isPrefixOf text.points

/-- What follows a beginning, if the text starts with it. -/
def after? (text front : Text) : Option Text :=
  if text.startsWith front then some (.ofPoints (text.points.drop front.length)) else none

/-- Texts one after the other, with the same text between any two. -/
def joined (between : Text) : List Text → Text
  | [] => ""
  | first :: rest => rest.foldl (fun text next => text ++ between ++ next) first

@[simp] theorem points_append (text other : Text) :
    (text ++ other).points = text.points ++ other.points := by
  show (text.append other).points = _
  induction text with
  | plain chars => cases other <;> simp [append, points]
  | broken chars half rest ih => simp [append, points, ih]

theorem points_front (front : Front) :
    front.text.points =
      front.chars.map .char ++
        (match front.tail with
          | none => []
          | some (half, rest) => .half half :: rest.points) := by
  obtain ⟨chars, tail⟩ := front
  cases tail <;> simp [Front.text, points]

/-- Every list of points is that of a text. -/
@[simp] theorem points_ofPoints (points : List Point) : (ofPoints points).points = points := by
  unfold ofPoints
  induction points with
  | nil => rfl
  | cons point rest ih =>
      cases point with
      | char c =>
          rw [points_front] at ih ⊢
          simpa [Front.cons] using ih
      | half half =>
          rw [points_front]
          simp [Front.cons, ih]

theorem foldr_chars (chars : List Char) (front : Front) :
    (chars.map Point.char).foldr Front.cons front = { front with chars := chars ++ front.chars } := by
  induction chars with
  | nil => rfl
  | cons c rest ih => simp [Front.cons, ih]

/-- A text is given by its points. -/
@[simp] theorem ofPoints_points (text : Text) : ofPoints text.points = text := by
  induction text with
  | plain chars =>
      unfold ofPoints
      simp [points, foldr_chars, Front.text]
  | broken chars half rest ih =>
      unfold ofPoints at ih ⊢
      simp only [points, List.foldr_append, List.foldr_cons, foldr_chars, Front.cons, ih]
      simp [Front.text]

theorem points_injective (text other : Text) (h : text.points = other.points) : text = other := by
  rw [← ofPoints_points text, h, ofPoints_points]

theorem append_assoc (first second third : Text) :
    first ++ second ++ third = first ++ (second ++ third) :=
  points_injective _ _ (by simp)

end Text

end CallAtlas
