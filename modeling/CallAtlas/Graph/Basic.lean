import CallAtlas.Ref

/-!
Call graphs.  Nodes and edges are unique and keep the order in which they were added; every node has
an entry in the index of its callees.
-/

namespace CallAtlas

/-- A caller and a callee. -/
abbrev Edge := Ref × Ref

/-- A directed graph with a start.  `out` lists the callees of every node. -/
structure Graph where
  start : Ref
  nodes : List Ref
  edges : List Edge
  out : Table Ref (List Ref)
  truncated : Bool
deriving Repr, DecidableEq, Inhabited

namespace Graph

def init (start : Ref) : Graph :=
  { start, nodes := [start], edges := [], out := Table.empty.insert start [], truncated := false }

def contains (graph : Graph) (node : Ref) : Bool := decide (node ∈ graph.nodes)

def hasEdge (graph : Graph) (caller callee : Ref) : Bool := decide ((caller, callee) ∈ graph.edges)

/-- Adds a node unless it is there. -/
def addNode (graph : Graph) (node : Ref) : Graph :=
  if graph.contains node then graph
  else { graph with nodes := graph.nodes ++ [node], out := graph.out.insert node [] }

/-- Adds an edge and both its ends, unless the edge is there. -/
def addEdge (graph : Graph) (caller callee : Ref) : Graph :=
  if graph.hasEdge caller callee then graph
  else
    let graph := (graph.addNode caller).addNode callee
    { graph with
      edges := graph.edges ++ [(caller, callee)]
      out := graph.out.insert caller ((graph.out.get? caller).getD [] ++ [callee]) }

/-- Whether `addNode` would add something. -/
def isNewNode (graph : Graph) (node : Ref) : Bool := !graph.contains node

/-- Whether `addEdge` would add something. -/
def isNewEdge (graph : Graph) (caller callee : Ref) : Bool := !graph.hasEdge caller callee

/-- The direct callees of a node, in edge order. -/
def callees (graph : Graph) (node : Ref) : List Ref := (graph.out.get? node).getD []

/-- The direct callers of a node, in edge order. -/
def callers (graph : Graph) (node : Ref) : List Ref :=
  (graph.edges.filter fun edge => edge.2 == node).map Prod.fst

end Graph

end CallAtlas
