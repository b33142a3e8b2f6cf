import CallAtlas.Graph.Basic
import CallAtlas.Graph.Budget
import CallAtlas.Graph.Resolver

/-!
Building a call graph: breadth-first search from a start over the stored blocks, with budgets for
nodes and edges and a signal to stop.

A function whose module or clause is missing is a leaf.  The search expands every node once, and the
nodes are the start and targets of stored calls, so the number of those bounds the number of rounds.
-/

namespace CallAtlas

structure Limits where
  nodes : Option Budget := none
  edges : Option Budget := none
deriving Repr, DecidableEq, Inhabited

/-- Why a search stopped before it was done. -/
inductive Halt where
  | nodes (budget : Budget)
  | edges (budget : Budget)
  | incomparable (kind : Text)
  | cancelled
deriving Repr, DecidableEq, Inhabited

/-- A search in progress: the graph so far, the nodes still to expand, and those expanded.  What was
visited is what was expanded or waits; these are always the nodes of the graph, so that no other set
of them is kept (`Search.Ordered.queue`). -/
structure Search where
  graph : Graph
  frontier : List Ref
  expanded : List Ref := []
  halt : Option Halt := none
deriving Repr, DecidableEq, Inhabited

namespace Search

def init (start : Ref) : Search := { graph := .init start, frontier := [start] }

/-- Why an edge cannot be added: a new node has to fit the node budget, a new edge the edge
budget. -/
def obstacle (limits : Limits) (graph : Graph) (caller target : Ref) : Option Halt :=
  let overNodes : Option Halt :=
    if graph.isNewNode target then
      match limits.nodes with
      | some budget =>
        match budget.reachedBy graph.nodes.length with
        | .ok true => some (.nodes budget)
        | .ok false => none
        | .error kind => some (.incomparable kind)
      | none => none
    else none
  overNodes.or
    (match limits.edges with
      | some budget =>
        match budget.reachedBy graph.edges.length with
        | .ok true => if graph.isNewEdge caller target then some (.edges budget) else none
        | .ok false => none
        | .error kind => some (.incomparable kind)
      | none => none)

/-- Follows one call; a new target waits to be expanded. -/
def follow (limits : Limits) (caller : Ref) (search : Search) (target : Ref) : Search :=
  match search.halt with
  | some _ => search
  | none =>
    match obstacle limits search.graph caller target with
    | some halt => { search with halt := some halt }
    | none =>
      { search with
        graph := search.graph.addEdge caller target
        frontier :=
          if search.graph.isNewNode target then search.frontier ++ [target]
          else search.frontier }

def expand (limits : Limits) (targets : Ref → List Ref) (node : Ref) (search : Search) : Search :=
  (targets node).foldl (follow limits node)
    { search with expanded := search.expanded ++ [node] }

/-- Whether the stop signal is up: it comes after so many nodes were expanded. -/
def isCancelled (cancelAfter : Option Nat) (search : Search) : Bool :=
  match cancelAfter with
  | some count => decide (count ≤ search.expanded.length)
  | none => false

/-- Expands waiting nodes, at most as many as the number of rounds. -/
def run (limits : Limits) (targets : Ref → List Ref) (cancelAfter : Option Nat) :
    Nat → Search → Search
  | 0, search => search
  | rounds + 1, search =>
    match search.halt, search.frontier with
    | some _, _ => search
    | none, [] => search
    | none, node :: rest =>
      if search.isCancelled cancelAfter then { search with halt := some .cancelled }
      else
        run limits targets cancelAfter rounds
          (expand limits targets node { search with frontier := rest })

end Search

inductive BuildError where
  | invalid (cause : RefError)
  | cancelled (start : Ref)
  | failed (start : Ref) (kind : Text)
deriving Repr, DecidableEq, Inhabited

def BuildError.message : BuildError → Text
  | .invalid cause => cause.message
  | .cancelled start => "Traversal from " ++ start.text ++ " cancelled"
  | .failed start kind =>
    "Failed to build call graph from " ++ start.text
      ++ ": '>=' not supported between instances of 'int' and '" ++ kind ++ "'"

namespace Resolver

/-- The finished search from a start. -/
def search (resolver : Resolver) (store : Store) (limits : Limits) (cancelAfter : Option Nat)
    (start : Ref) : Search :=
  Search.run limits (resolver.targets store) cancelAfter
    ((resolver.allTargets store).length + 1) (.init start)

/-- The graph that a finished search stands for.  A search that met a budget gives the graph so far,
marked as truncated.  The report that names the budget is taken to succeed, as it does for every
budget that can be written in digits. -/
def outcome (start : Ref) (search : Search) : Except BuildError Graph :=
  match search.halt with
  | none => .ok search.graph
  | some (.nodes _) | some (.edges _) => .ok { search.graph with truncated := true }
  | some .cancelled => .error (.cancelled start)
  | some (.incomparable kind) => .error (.failed start kind)

/-- The graph of everything that the start reaches. -/
def build (resolver : Resolver) (store : Store) (limits : Limits) (cancelAfter : Option Nat)
    (start : Ref) : Except BuildError Graph :=
  outcome start (resolver.search store limits cancelAfter start)

/-- What is reported when a search met a budget. -/
def haltLog (start : Ref) (halt : Option Halt) : Log :=
  let report (reason : Text) (budget : Budget) : Log :=
    [⟨.warning, .builder,
      "Call graph from " ++ start.text ++ " truncated: " ++ reason ++ " budget " ++ budget.text
        ++ " reached"⟩]
  match halt with
  | some (.nodes budget) => report "node" budget
  | some (.edges budget) => report "edge" budget
  | _ => []

/-- What is reported while a graph is built. -/
def buildLog (resolver : Resolver) (store : Store) (limits : Limits) (cancelAfter : Option Nat)
    (start : Ref) : Log :=
  let search := resolver.search store limits cancelAfter start
  search.expanded.flatMap (resolver.visitLog store) ++ haltLog start search.halt

end Resolver

end CallAtlas
