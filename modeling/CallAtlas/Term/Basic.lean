import CallAtlas.Depths
import CallAtlas.Literal
import CallAtlas.Text.Numeral

/-!
Quoted trees of Elixir code.  A call, operator or definition is a triple of a form, its metadata
and its arguments; atoms and binaries are texts; a variable is a triple without an argument list.
-/

namespace CallAtlas

/-- A quoted tree. -/
inductive Term where
  | null
  | bool (value : Bool)
  | int (value : Int)
  | decimal (value : Decimal)
  | text (value : Text)
  | list (items : List Term)
  | tuple (items : List Term)
deriving Repr, Inhabited

namespace Term

mutual
/-- Equality of quoted trees can be decided. -/
def decEq : (a b : Term) → Decidable (a = b)
  | .null, .null => isTrue rfl
  | .bool a, .bool b => decidable_of_iff (a = b) (by simp)
  | .int a, .int b => decidable_of_iff (a = b) (by simp)
  | .decimal a, .decimal b => decidable_of_iff (a = b) (by simp)
  | .text a, .text b => decidable_of_iff (a = b) (by simp)
  | .list a, .list b => @decidable_of_iff _ (a = b) (by simp) (decEqAll a b)
  | .tuple a, .tuple b => @decidable_of_iff _ (a = b) (by simp) (decEqAll a b)
  | .null, .bool _ | .null, .int _ | .null, .decimal _ | .null, .text _ | .null, .list _
  | .null, .tuple _ | .bool _, .null | .bool _, .int _ | .bool _, .decimal _ | .bool _, .text _
  | .bool _, .list _ | .bool _, .tuple _ | .int _, .null | .int _, .bool _ | .int _, .decimal _
  | .int _, .text _ | .int _, .list _ | .int _, .tuple _ | .decimal _, .null | .decimal _, .bool _
  | .decimal _, .int _ | .decimal _, .text _ | .decimal _, .list _ | .decimal _, .tuple _
  | .text _, .null | .text _, .bool _ | .text _, .int _ | .text _, .decimal _ | .text _, .list _
  | .text _, .tuple _ | .list _, .null | .list _, .bool _ | .list _, .int _ | .list _, .decimal _
  | .list _, .text _ | .list _, .tuple _ | .tuple _, .null | .tuple _, .bool _ | .tuple _, .int _
  | .tuple _, .decimal _ | .tuple _, .text _ | .tuple _, .list _ =>
    isFalse (by intro h; cases h)

def decEqAll : (a b : List Term) → Decidable (a = b)
  | [], [] => isTrue rfl
  | [], _ :: _ => isFalse (by simp)
  | _ :: _, [] => isFalse (by simp)
  | a :: as, b :: bs =>
    match decEq a b, decEqAll as bs with
    | isTrue hhead, isTrue hrest => isTrue (by rw [hhead, hrest])
    | isFalse hhead, _ => isFalse fun h => hhead (List.cons.inj h).1
    | _, isFalse hrest => isFalse fun h => hrest (List.cons.inj h).2
end

instance : DecidableEq Term := decEq

/-- The value of a key in a keyword list; `null` if the key is missing or this is no list. -/
def keyword (key : Text) : Term → Term
  | .list items => lookup items
  | _ => .null
where
  lookup : List Term → Term
    | [] => .null
    | .tuple [.text name, value] :: rest => if name = key then value else lookup rest
    | _ :: rest => lookup rest

def hasForm (form : Text) : Term → Bool
  | .tuple [.text name, _, _] => name == form
  | _ => false

def isTriple : Term → Bool
  | .tuple [_, _, _] => true
  | _ => false

def isNull : Term → Bool
  | .null => true
  | _ => false

/-- Trees are triples, or something else that is taken by its outermost form. -/
@[elab_as_elim] theorem tripleCases {P : Term → Prop} (term : Term)
    (triple : ∀ head info args, P (.tuple [head, info, args]))
    (null : P .null) (bool : ∀ value, P (.bool value)) (int : ∀ value, P (.int value))
    (decimal : ∀ value, P (.decimal value)) (text : ∀ value, P (.text value))
    (list : ∀ items, P (.list items)) (unit : P (.tuple [])) (single : ∀ item, P (.tuple [item]))
    (pair : ∀ first second, P (.tuple [first, second]))
    (many : ∀ first second third fourth rest,
      P (.tuple (first :: second :: third :: fourth :: rest))) : P term :=
  match term with
  | .null => null
  | .bool value => bool value
  | .int value => int value
  | .decimal value => decimal value
  | .text value => text value
  | .list items => list items
  | .tuple [] => unit
  | .tuple [item] => single item
  | .tuple [first, second] => pair first second
  | .tuple [head, info, args] => triple head info args
  | .tuple (first :: second :: third :: fourth :: rest) => many first second third fourth rest

mutual
/-- How messages show a quoted tree. -/
def toLiteral : Term → Literal
  | .null => .null
  | .bool value => .bool value
  | .int value => .int value
  | .decimal value => .decimal value
  | .text value => .text value
  | .list items => .list (toLiterals items)
  | .tuple items => .tuple (toLiterals items)

def toLiterals : List Term → List Literal
  | [] => []
  | item :: rest => item.toLiteral :: toLiterals rest
end

/-- Why a message cannot show a quoted tree. -/
inductive ShowFault where
  | oversized
  | tooDeep
deriving Repr, DecidableEq, Inhabited

def ShowFault.message : ShowFault → String
  | .oversized => Numeral.writeMessage
  | .tooDeep => "maximum recursion depth exceeded"

mutual
/-- What first keeps a quoted tree from being shown: lists and tuples nested more than `limit` deep,
or a number with too many digits. -/
def showFault? (limit : Nat) : Term → Option ShowFault
  | .int value => if Numeral.isOversized value then some .oversized else none
  | .list items | .tuple items =>
    match limit with
    | 0 => some .tooDeep
    | limit + 1 => showFaultAmong? limit items
  | _ => none

def showFaultAmong? (limit : Nat) : List Term → Option ShowFault
  | [] => none
  | item :: rest => (item.showFault? limit).or (showFaultAmong? limit rest)
end

/-- A quoted tree in a message: as written, cut to sixty characters.  The whole tree is written
first, which can fail. -/
def describe [Depths] (term : Term) : Except ShowFault String :=
  match term.showFault? Depths.shown with
  | some fault => .error fault
  | none => .ok (Literal.shorten term.toLiteral.render)

end Term

end CallAtlas
