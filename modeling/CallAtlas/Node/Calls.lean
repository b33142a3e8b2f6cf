import CallAtlas.Call
import CallAtlas.Node.Basic
import CallAtlas.Table
import CallAtlas.Text.Dotted

/-!
The calls of a node, in call-site order: a call comes before the calls in its receiver and its
arguments, and what is piped into a call comes before it.
-/

namespace CallAtlas

/-- What the calls of a body are read against: the module they stand in and its alias table. -/
structure Scope where
  module : Text
  aliases : Table Text Text := .empty
deriving Repr, Inhabited

/-- The rest of a text after `Elixir.`, with which the atom of an Elixir module starts. -/
def elixirName? (atom : Text) : Option Text := atom.after? "Elixir."

/-- The module that a receiver stands for; none for a receiver known only at run time.  Only an alias
of one segment is looked up in the alias table. -/
def Scope.resolve (scope : Scope) : Target → Option Text
  | .alias [segment] => some ((scope.aliases.get? segment).getD segment)
  | .alias segments => some (Dotted.join segments)
  | .atom name =>
    match elixirName? name with
    | some module => some module
    | none => some (":" ++ name)
  | .current segments => some (Dotted.join (scope.module :: segments))
  | .dynamic => none
  | .nameless => none

namespace Node

/-- The call that a qualified node itself makes. -/
def qualifiedCall (scope : Scope) (target : Target) (name : Text) (arity : Int)
    (position : Option Position) : Call :=
  let module := scope.resolve target
  { name, arity, module, position, dynamic := module.isNone }

/-- One more argument if a value is piped in. -/
def withPiped (arity : Int) (piped : Bool) : Int := if piped then arity + 1 else arity

mutual
/-- The calls of a node.  A value piped into a call is its first argument; piped into a bare
identifier it makes a call of that name. -/
def calls (scope : Scope) (piped : Bool) : Node → List Call
  | .leaf (some name) position => if piped then [{ name, arity := 1, position }] else []
  | .leaf none _ => []
  | .qualified target name arity args receiver position =>
    qualifiedCall scope target name (withPiped arity piped) position
      :: (match receiver with
          | some receiver => calls scope false receiver
          | none => [])
      ++ callsAll scope args
  | .unqualified name arity args position =>
    { name, arity := withPiped arity piped, position } :: callsAll scope args
  | .pipeline left right => calls scope false left ++ calls scope true right
  | .withChain clauses body otherwise =>
    callsAll scope clauses ++ calls scope false body
      ++ (match otherwise with
          | some otherwise => calls scope false otherwise
          | none => [])
  | .grouping nodes | .sequence nodes | .block nodes => callsAll scope nodes
  | .foreign _ => []

def callsAll (scope : Scope) : List Node → List Call
  | [] => []
  | node :: rest => calls scope false node ++ callsAll scope rest
end

mutual
/-- Whether nodes are nested more than `limit` deep.  Classifying and collecting calls both recurse
once per level. -/
def deeperThan : (limit : Nat) → Node → Bool
  | _, .leaf _ _ | _, .foreign _ => false
  | 0, _ => true
  | limit + 1, .qualified _ _ _ args receiver _ =>
    anyDeeperThan limit args
      || (match receiver with
          | some receiver => receiver.deeperThan limit
          | none => false)
  | limit + 1, .pipeline left right => left.deeperThan limit || right.deeperThan limit
  | limit + 1, .withChain clauses body otherwise =>
    anyDeeperThan limit clauses || body.deeperThan limit
      || (match otherwise with
          | some otherwise => otherwise.deeperThan limit
          | none => false)
  | limit + 1, .unqualified _ _ nodes _ | limit + 1, .grouping nodes | limit + 1, .sequence nodes
  | limit + 1, .block nodes => anyDeeperThan limit nodes

def anyDeeperThan (limit : Nat) : List Node → Bool
  | [] => false
  | node :: rest => node.deeperThan limit || anyDeeperThan limit rest
end

/-- What is wrong with a hand-made node. -/
inductive Fault where
  | foreign (kind : String)
  | nameless
deriving Repr, DecidableEq, Inhabited

def Fault.message : Fault → String
  | .foreign kind => "Unknown node kind: " ++ kind
  | .nameless => "tuple index out of range"

mutual
/-- The first fault met when the calls of a node are collected. -/
def fault? : Node → Option Fault
  | .leaf _ _ => none
  | .qualified target _ _ args receiver _ =>
    if target = .nameless then some .nameless
    else
      (match receiver with
        | some receiver => fault? receiver
        | none => none).or (faultAmong? args)
  | .unqualified _ _ args _ => faultAmong? args
  | .pipeline left right => (fault? left).or (fault? right)
  | .withChain clauses body otherwise =>
    ((faultAmong? clauses).or (fault? body)).or
      (match otherwise with
        | some otherwise => fault? otherwise
        | none => none)
  | .grouping nodes | .sequence nodes | .block nodes => faultAmong? nodes
  | .foreign kind => some (.foreign kind)

def faultAmong? : List Node → Option Fault
  | [] => none
  | node :: rest => (fault? node).or (faultAmong? rest)
end

/-- The calls of a node that may be hand-made; refuses a faulty one. -/
def extract (scope : Scope) (node : Node) : Except Fault (List Call) :=
  match node.fault? with
  | some fault => .error fault
  | none => .ok (node.calls scope false)

end Node

end CallAtlas
