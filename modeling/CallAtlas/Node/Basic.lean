import CallAtlas.Position

/-!
The closed set of node kinds that call extraction works on.  Every quoted tree is brought into this
form first, so that extraction never looks at the quoted grammar.
-/

namespace CallAtlas

/-- How the receiver of a qualified call is written: `Foo.Bar.f()`, `:ets.f()`, `__MODULE__.f()`, or
a value known only when the program runs.  A hand-made node can lack the name of its atom. -/
inductive Target where
  | alias (segments : List Text)
  | atom (name : Text)
  | current (segments : List Text)
  | dynamic
  | nameless
deriving Repr, DecidableEq, Inhabited

/-- A classified node.  A leaf has a name if it is a bare identifier, which a pipeline can call.  A
`foreign` node stands for a value of some other kind in a hand-made tree. -/
inductive Node where
  | leaf (name : Option Text) (position : Option Position)
  | qualified (target : Target) (name : Text) (arity : Int) (args : List Node)
      (receiver : Option Node) (position : Option Position)
  | unqualified (name : Text) (arity : Int) (args : List Node) (position : Option Position)
  | pipeline (left right : Node)
  | withChain (clauses : List Node) (body : Node) (otherwise : Option Node)
  | grouping (elements : List Node)
  | sequence (elements : List Node)
  | block (statements : List Node)
  | foreign (kind : String)
deriving Repr, Inhabited

/-- A leaf without a name: a literal or a module reference. -/
def Node.literal : Node := .leaf none none

end CallAtlas
