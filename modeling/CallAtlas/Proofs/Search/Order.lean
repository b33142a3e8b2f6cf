import Mathlib.Data.List.Perm.Subperm
import CallAtlas.Graph.Search
import CallAtlas.Proofs.Table

/-!
The order of a search.  Nodes and edges are only ever appended, a node enters the graph when it
enters the frontier, and it leaves the frontier in the order in which it came.  So the nodes are at
any time the expanded ones followed by the waiting ones, and they are the start and the callees of
the edges in order of first occurrence.

A search does three things: it takes a waiting node up, it follows a call of an expanded node, and it
stops.  `run_invariant` reduces what a whole run preserves to what these preserve.
-/

namespace CallAtlas

namespace Graph

/-- The nodes that a start and some edges bring in, in order of first occurrence. -/
def nodesOf (start : Ref) (edges : List Edge) : List Ref :=
  (start :: edges.map Prod.snd).eraseDups

theorem mem_nodesOf {start node : Ref} {edges : List Edge} :
    node ∈ nodesOf start edges ↔ node = start ∨ ∃ edge ∈ edges, edge.2 = node := by
  simp [nodesOf, List.mem_eraseDups]

theorem nodesOf_concat (start : Ref) (edges : List Edge) (caller callee : Ref) :
    nodesOf start (edges ++ [(caller, callee)]) =
      if callee ∈ nodesOf start edges then nodesOf start edges
      else nodesOf start edges ++ [callee] := by
  have hsplit : start :: (edges ++ [(caller, callee)]).map Prod.snd =
      (start :: edges.map Prod.snd) ++ [callee] := by simp
  rw [nodesOf, hsplit, eraseDups_concat]
  simp only [nodesOf, List.mem_eraseDups]

theorem nodes_addNode (graph : Graph) (node : Ref) :
    (graph.addNode node).nodes =
      if node ∈ graph.nodes then graph.nodes else graph.nodes ++ [node] := by
  by_cases hnode : node ∈ graph.nodes <;> simp [addNode, contains, hnode]

@[simp] theorem edges_addNode (graph : Graph) (node : Ref) :
    (graph.addNode node).edges = graph.edges := by
  by_cases hnode : node ∈ graph.nodes <;> simp [addNode, contains, hnode]

@[simp] theorem truncated_addNode (graph : Graph) (node : Ref) :
    (graph.addNode node).truncated = graph.truncated := by
  by_cases hnode : node ∈ graph.nodes <;> simp [addNode, contains, hnode]

theorem edges_addEdge (graph : Graph) (caller callee : Ref) :
    (graph.addEdge caller callee).edges =
      if (caller, callee) ∈ graph.edges then graph.edges
      else graph.edges ++ [(caller, callee)] := by
  by_cases hedge : (caller, callee) ∈ graph.edges <;> simp [addEdge, hasEdge, hedge]

@[simp] theorem truncated_addEdge (graph : Graph) (caller callee : Ref) :
    (graph.addEdge caller callee).truncated = graph.truncated := by
  by_cases hedge : (caller, callee) ∈ graph.edges <;> simp [addEdge, hasEdge, hedge]

/-- A new edge from a known caller adds its callee and nothing else. -/
theorem nodes_addEdge {graph : Graph} {caller callee : Ref}
    (hcaller : caller ∈ graph.nodes)
    (hcallee : (caller, callee) ∈ graph.edges → callee ∈ graph.nodes) :
    (graph.addEdge caller callee).nodes =
      if callee ∈ graph.nodes then graph.nodes else graph.nodes ++ [callee] := by
  by_cases hedge : (caller, callee) ∈ graph.edges
  · simp [addEdge, hasEdge, hedge, hcallee hedge]
  · simp [addEdge, hasEdge, hedge, nodes_addNode, hcaller]

end Graph

namespace Search

/-- Takes a waiting node up: what waits behind it becomes the frontier. -/
def take (node : Ref) (rest : List Ref) (search : Search) : Search :=
  { search with frontier := rest, expanded := search.expanded ++ [node] }

/-- Follows a call that no budget forbids. -/
def discover (caller target : Ref) (search : Search) : Search :=
  { search with
    graph := search.graph.addEdge caller target
    frontier :=
      if search.graph.isNewNode target then search.frontier ++ [target] else search.frontier }

/-- Ends a search. -/
def stop (halt : Halt) (search : Search) : Search := { search with halt := some halt }

theorem follow_of_halt {search : Search} {halt : Halt} (hhalt : search.halt = some halt)
    (limits : Limits) (caller target : Ref) : follow limits caller search target = search := by
  simp [follow, hhalt]

/-- Following a call while the search goes on either meets a budget or discovers the target. -/
theorem follow_cases {search : Search} (hgoing : search.halt = none) (limits : Limits)
    (caller target : Ref) :
    (∃ halt, obstacle limits search.graph caller target = some halt ∧
        follow limits caller search target = search.stop halt) ∨
      (obstacle limits search.graph caller target = none ∧
        follow limits caller search target = search.discover caller target) := by
  cases hobstacle : obstacle limits search.graph caller target with
  | none => exact Or.inr ⟨rfl, by simp [follow, hgoing, hobstacle, discover]⟩
  | some halt => exact Or.inl ⟨halt, rfl, by simp [follow, hgoing, hobstacle, stop]⟩

theorem run_of_halt {search : Search} {halt : Halt} (hhalt : search.halt = some halt)
    (limits : Limits) (targets : Ref → List Ref) (cancelAfter : Option Nat) (rounds : Nat) :
    run limits targets cancelAfter rounds search = search := by
  cases rounds with
  | zero => rfl
  | succ rounds => simp [run, hhalt]

theorem run_of_frontier_eq_nil {search : Search} (hfrontier : search.frontier = [])
    (limits : Limits) (targets : Ref → List Ref) (cancelAfter : Option Nat) (rounds : Nat) :
    run limits targets cancelAfter rounds search = search := by
  cases rounds with
  | zero => rfl
  | succ rounds =>
      cases hhalt : search.halt with
      | none => simp [run, hhalt, hfrontier]
      | some halt => simp [run, hhalt]

/-- A round takes the first waiting node up and follows its calls, unless the signal to stop is
there. -/
theorem run_succ {search : Search} {node : Ref} {rest : List Ref} (hgoing : search.halt = none)
    (hfrontier : search.frontier = node :: rest) (limits : Limits) (targets : Ref → List Ref)
    (cancelAfter : Option Nat) (rounds : Nat) :
    run limits targets cancelAfter (rounds + 1) search =
      if search.isCancelled cancelAfter then search.stop .cancelled
      else
        run limits targets cancelAfter rounds
          ((targets node).foldl (follow limits node) (search.take node rest)) := by
  obtain ⟨graph, frontier, expanded, halt⟩ := search
  obtain rfl : halt = none := hgoing
  obtain rfl : frontier = node :: rest := hfrontier
  rfl

@[simp] theorem expanded_discover (caller target : Ref) (search : Search) :
    (search.discover caller target).expanded = search.expanded := rfl

@[simp] theorem expanded_follow (limits : Limits) (caller target : Ref) (search : Search) :
    (follow limits caller search target).expanded = search.expanded := by
  cases hhalt : search.halt with
  | some halt => rw [follow_of_halt hhalt]
  | none =>
      rcases follow_cases hhalt limits caller target with ⟨halt, _, heq⟩ | ⟨_, heq⟩
      · rw [heq]
        rfl
      · rw [heq, expanded_discover]

@[simp] theorem expanded_foldl_follow (limits : Limits) (caller : Ref) (targets : List Ref)
    (search : Search) :
    (targets.foldl (follow limits caller) search).expanded = search.expanded := by
  induction targets generalizing search with
  | nil => rfl
  | cons target rest ih => rw [List.foldl_cons, ih, expanded_follow]

section Invariant

variable (limits : Limits) (targets : Ref → List Ref) (cancelAfter : Option Nat)
  {P : Search → Prop}

/-- What discoveries by a node and stops preserve, following a list of its calls preserves. -/
theorem foldl_follow_invariant {caller : Ref}
    (hdiscover : ∀ search target, search.halt = none → caller ∈ search.expanded →
      target ∈ targets caller → obstacle limits search.graph caller target = none →
      P search → P (search.discover caller target))
    (hstop : ∀ search halt, search.halt = none → P search → P (search.stop halt))
    (calls : List Ref) (hcalls : ∀ target ∈ calls, target ∈ targets caller)
    {search : Search} (hcaller : caller ∈ search.expanded) (hsearch : P search) :
    P (calls.foldl (follow limits caller) search) := by
  induction calls generalizing search with
  | nil => exact hsearch
  | cons target rest ih =>
      rw [List.foldl_cons]
      apply ih (fun other hother => hcalls other (List.mem_cons_of_mem target hother))
      · rwa [expanded_follow]
      · cases hhalt : search.halt with
        | some halt => rwa [follow_of_halt hhalt]
        | none =>
            rcases follow_cases hhalt limits caller target with ⟨halt, _, heq⟩ | ⟨hfree, heq⟩
            · rw [heq]
              exact hstop search halt hhalt hsearch
            · rw [heq]
              exact hdiscover search target hhalt hcaller
                (hcalls target List.mem_cons_self) hfree hsearch

/-- What takings, discoveries and stops preserve, a run preserves. -/
theorem run_invariant
    (htake : ∀ search node rest, search.halt = none → search.frontier = node :: rest →
      P search → P (search.take node rest))
    (hdiscover : ∀ search caller target, search.halt = none → caller ∈ search.expanded →
      target ∈ targets caller → obstacle limits search.graph caller target = none →
      P search → P (search.discover caller target))
    (hstop : ∀ search halt, search.halt = none → P search → P (search.stop halt))
    (rounds : Nat) {search : Search} (hsearch : P search) :
    P (run limits targets cancelAfter rounds search) := by
  induction rounds generalizing search with
  | zero => exact hsearch
  | succ rounds ih =>
      cases hhalt : search.halt with
      | some halt => rwa [run_of_halt hhalt]
      | none =>
          cases hfrontier : search.frontier with
          | nil => rwa [run_of_frontier_eq_nil hfrontier]
          | cons node rest =>
              rw [run_succ hhalt hfrontier]
              split
              · exact hstop search .cancelled hhalt hsearch
              · apply ih
                apply foldl_follow_invariant limits targets
                  (fun search target => hdiscover search node target) hstop (targets node)
                  (fun _ => id)
                · simp [take]
                · exact htake search node rest hhalt hfrontier hsearch

end Invariant

/-- The order of a search: nodes come in by their first edge, and wait in the order in which they came
in.  The nodes that were visited, expanded or still waiting, are the nodes of the graph. -/
structure Ordered (start : Ref) (search : Search) : Prop where
  nodes_eq : search.graph.nodes = Graph.nodesOf start search.graph.edges
  queue : search.graph.nodes = search.expanded ++ search.frontier

namespace Ordered

variable {start : Ref} {search : Search}

theorem nodup (h : Ordered start search) : search.graph.nodes.Nodup := by
  rw [h.nodes_eq]
  exact nodup_eraseDups _

theorem start_mem (h : Ordered start search) : start ∈ search.graph.nodes := by
  rw [h.nodes_eq, Graph.mem_nodesOf]
  exact Or.inl rfl

theorem callee_mem (h : Ordered start search) {caller callee : Ref}
    (hedge : (caller, callee) ∈ search.graph.edges) : callee ∈ search.graph.nodes := by
  rw [h.nodes_eq, Graph.mem_nodesOf]
  exact Or.inr ⟨(caller, callee), hedge, rfl⟩

theorem expanded_mem (h : Ordered start search) {node : Ref} (hnode : node ∈ search.expanded) :
    node ∈ search.graph.nodes := by
  rw [h.queue]
  exact List.mem_append.mpr (Or.inl hnode)

theorem nodes_discover (h : Ordered start search) {caller : Ref}
    (hcaller : caller ∈ search.expanded) (target : Ref) :
    (search.discover caller target).graph.nodes =
      if target ∈ search.graph.nodes then search.graph.nodes
      else search.graph.nodes ++ [target] :=
  Graph.nodes_addEdge (h.expanded_mem hcaller) h.callee_mem

theorem init (start : Ref) : Ordered start (.init start) where
  nodes_eq := by simp [Search.init, Graph.init, Graph.nodesOf, List.eraseDups_cons]
  queue := rfl

theorem take (h : Ordered start search) {node : Ref} {rest : List Ref}
    (hfrontier : search.frontier = node :: rest) : Ordered start (search.take node rest) where
  nodes_eq := h.nodes_eq
  queue := by
    change search.graph.nodes = (search.expanded ++ [node]) ++ rest
    rw [h.queue, hfrontier, List.append_assoc, List.singleton_append]

theorem stop (h : Ordered start search) (halt : Halt) : Ordered start (search.stop halt) :=
  ⟨h.nodes_eq, h.queue⟩

theorem discover (h : Ordered start search) {caller : Ref} (hcaller : caller ∈ search.expanded)
    (target : Ref) : Ordered start (search.discover caller target) where
  nodes_eq := by
    rw [h.nodes_discover hcaller]
    change _ = Graph.nodesOf start (search.graph.addEdge caller target).edges
    rw [Graph.edges_addEdge]
    by_cases hedge : (caller, target) ∈ search.graph.edges
    · rw [if_pos (h.callee_mem hedge), if_pos hedge, h.nodes_eq]
    · rw [if_neg hedge, Graph.nodesOf_concat, h.nodes_eq]
  queue := by
    rw [h.nodes_discover hcaller]
    by_cases htarget : target ∈ search.graph.nodes
    · simpa [Search.discover, Graph.isNewNode, Graph.contains, htarget] using h.queue
    · rw [if_neg htarget, h.queue, List.append_assoc]
      simp [Search.discover, Graph.isNewNode, Graph.contains, htarget]

theorem round (h : Ordered start search) (limits : Limits) (targets : Ref → List Ref) {node : Ref}
    {rest : List Ref} (hfrontier : search.frontier = node :: rest) :
    Ordered start ((targets node).foldl (follow limits node) (search.take node rest)) :=
  foldl_follow_invariant limits targets
    (fun _ target _ hcaller _ _ h => h.discover hcaller target)
    (fun _ halt _ h => h.stop halt) (targets node) (fun _ => id)
    (by simp [Search.take]) (h.take hfrontier)

/-- Every run keeps the order. -/
theorem run (limits : Limits) (targets : Ref → List Ref) (cancelAfter : Option Nat) (rounds : Nat)
    (h : Ordered start search) :
    Ordered start (Search.run limits targets cancelAfter rounds search) :=
  run_invariant limits targets cancelAfter (fun _ _ _ _ hfrontier h => h.take hfrontier)
    (fun _ _ target _ hcaller _ _ h => h.discover hcaller target)
    (fun _ halt _ h => h.stop halt) rounds h

end Ordered

end Search

end CallAtlas
