import CallAtlas.Text.Basic

/-!
The tree of an expression, what its parts are called in messages, and whether it stands for a value.
-/

namespace CallAtlas.Handler

/-- What a part of an expression is. -/
inductive Form where
  | name
  | constant
  | ellipsis
  | number
  | imaginary
  | text
  | template
  | attribute
  | call
  | keyword
  | spread
  | starred
  | tuple
  | set
  | dict
  | pair
  | unpacking
  | unary
  | binary
  | boolean
  | comparison
  | conditional
  | function
  | generator
  | setComprehension
  | dictComprehension
  | yielded
  | awaited
  | named
  | list
  | mark
deriving Repr, DecidableEq, Inhabited

/-- A part of an expression: what it is, its own text if it has one, and its parts. -/
inductive Tree where
  | node (form : Form) (text : String) (items : List Tree)
deriving Repr, Inhabited

namespace Tree

def form : Tree → Form
  | .node form _ _ => form

def text : Tree → String
  | .node _ text _ => text

def items : Tree → List Tree
  | .node _ _ items => items

/-- What a part is called in messages. -/
def title (tree : Tree) : String :=
  match tree.form with
  | .name => "name"
  | .constant => tree.text
  | .ellipsis => "ellipsis"
  | .number | .imaginary | .text => "literal"
  | .template => "f-string expression"
  | .attribute => "attribute"
  | .call => "function call"
  | .starred => "starred"
  | .tuple => "tuple"
  | .set => "set display"
  | .dict => "dict literal"
  | .unary | .binary | .boolean => "expression"
  | .comparison => "comparison"
  | .conditional => "conditional expression"
  | .function => "lambda"
  | .generator => "generator expression"
  | .setComprehension => "set comprehension"
  | .dictComprehension => "dict comprehension"
  | .yielded => "yield expression"
  | .awaited => "await expression"
  | .named => "named expression"
  | .keyword | .spread | .pair | .unpacking | .list | .mark => ""

/-- A list as its items, any other part as itself. -/
def flat (tree : Tree) : List Tree :=
  match tree with
  | .node .list _ items => items
  | tree => [tree]

/-- Whether a part is a word that needs parentheses to be called. -/
def isCommand (tree : Tree) : Bool :=
  tree.form == .name && ["print", "exec"].contains tree.text

mutual
/-- The part of a loop's target that nothing can be assigned to. -/
def badTarget? : Tree → Option Tree
  | .node form text items =>
    match form with
    | .name | .attribute => none
    | .tuple => badTargetIn? items
    | .starred => badTargetIn? items
    | .comparison => if text = "in" then badTargetIn? items else none
    | _ => some (.node form text items)

/-- The first such part among some. -/
def badTargetIn? : List Tree → Option Tree
  | [] => none
  | item :: rest => (badTarget? item).or (badTargetIn? rest)
end

end Tree

/-- What an expression stands for: a value, with its kind if it cannot be a key; no value, with the
reason; or no value for a reason that has no fixed text. -/
inductive Verdict where
  | value (unhashable : Option String)
  | fault (message : String)
  | unclear
deriving Repr, DecidableEq, Inhabited

namespace Tree

/-- Whether a part is a number without a sign. -/
def isNumber (tree : Tree) : Bool := tree.form == .number || tree.form == .imaginary

/-- Whether a part is a number, perhaps with a sign. -/
def isSigned (tree : Tree) : Bool :=
  tree.isNumber
    || (tree.form == .unary && ["+", "-"].contains tree.text && tree.items.all isNumber)

/-- Whether a part is a number without an imaginary part, perhaps with a sign. -/
def isReal (tree : Tree) : Bool :=
  tree.isSigned && tree.form != .imaginary && !tree.items.any (·.form == .imaginary)

/-- Whether a sum stands for a number: it has a real part and an imaginary part. -/
def isComplex (operator : String) (items : List Tree) : Bool :=
  ["+", "-"].contains operator
    && match items with
      | [real, imaginary] => real.isReal && imaginary.form == .imaginary
      | _ => false

/-- What is said of a value that cannot be a key. -/
def unhashable (kind : String) : Verdict := .fault ("unhashable type: '" ++ kind ++ "'")

def isEmptySet : List Tree → Bool
  | [.node .name text _] => text == "set"
  | _ => false

mutual
/-- What an expression stands for. -/
def verdict : Tree → Verdict
  | .node form text items =>
    match form with
    | .constant | .ellipsis | .number | .imaginary | .text => .value none
    | .tuple => tupleVerdict none items
    | .set => setVerdict items
    | .dict => dictVerdict items
    | .call => if isEmptySet items then .value (some "set") else .unclear
    | .unary => if ["+", "-"].contains text && items.all isNumber then .value none else .unclear
    | .binary => if isComplex text items then .value none else .unclear
    | _ => .unclear

/-- What the items of a tuple stand for; `found` is the first kind that cannot be a key. -/
def tupleVerdict (found : Option String) : List Tree → Verdict
  | [] => .value found
  | item :: rest =>
    match verdict item with
    | .value kind => tupleVerdict (found.or kind) rest
    | verdict => verdict

/-- What the items of a set stand for. -/
def setVerdict : List Tree → Verdict
  | [] => .value (some "set")
  | item :: rest =>
    match verdict item with
    | .value none => setVerdict rest
    | .value (some kind) => unhashable kind
    | verdict => verdict

/-- What the pairs of a dictionary stand for. -/
def dictVerdict : List Tree → Verdict
  | [] => .value (some "dict")
  | .node .pair _ [key, value] :: rest =>
    match verdict key with
    | .value kind =>
      match verdict value, kind with
      | .value _, none => dictVerdict rest
      | .value _, some kind => unhashable kind
      | verdict, _ => verdict
    | verdict => verdict
  | .node .unpacking _ _ :: _ => .fault "malformed node or string: None"
  | _ :: _ => .unclear
end

end Tree

end CallAtlas.Handler
