import Mathlib.Order.Lattice.Nat
import CallAtlas.Proofs.Search.Reach

/-!
A search goes outward from its start.  Nodes come in by their distance from the start: while the
calls of a node are followed, every node in the graph is at most one call farther away than this
one, and every waiting node is at least as far away.  So a node that comes in goes behind all
others.

The distances are not known to a search.  `Levelled` speaks of depths at which nodes were found;
once a search has followed all calls, these are the distances.
-/

namespace CallAtlas

namespace Search

/-- A chain of so many calls leads from the start to a function. -/
inductive Chain (targets : Ref → List Ref) (start : Ref) : Nat → Ref → Prop where
  | refl : Chain targets start 0 start
  | tail {length : Nat} {caller target : Ref} (hcaller : Chain targets start length caller)
      (htarget : target ∈ targets caller) : Chain targets start (length + 1) target

theorem mem_edges_discover {caller target : Ref} {search : Search} {edge : Edge} :
    edge ∈ (search.discover caller target).graph.edges ↔
      edge ∈ search.graph.edges ∨ edge = (caller, target) := by
  change edge ∈ (search.graph.addEdge caller target).edges ↔ _
  rw [Graph.edges_addEdge]
  by_cases hedge : (caller, target) ∈ search.graph.edges
  · rw [if_pos hedge]
    exact ⟨Or.inl, fun h => h.elim id fun heq => heq ▸ hedge⟩
  · rw [if_neg hedge, List.mem_append, List.mem_singleton]

/-- Depths of the nodes of a search that follows the calls of `current`. -/
structure Levelled (targets : Ref → List Ref) (start : Ref) (depth : Ref → Nat) (current : Ref)
    (search : Search) : Prop where
  start_eq : depth start = 0
  chain : ∀ node ∈ search.graph.nodes, Chain targets start (depth node) node
  sorted : search.graph.nodes.Pairwise fun node later => depth node ≤ depth later
  edge : ∀ caller callee, (caller, callee) ∈ search.graph.edges →
    caller ∈ search.graph.nodes ∧ depth callee ≤ depth caller + 1
  near : ∀ node ∈ search.graph.nodes, depth node ≤ depth current + 1
  waiting : ∀ node ∈ search.frontier, depth current ≤ depth node

namespace Levelled

variable {targets : Ref → List Ref} {start current : Ref} {depth : Ref → Nat} {search : Search}

theorem init (targets : Ref → List Ref) (start : Ref) :
    Levelled targets start (fun _ => 0) start (.init start) where
  start_eq := rfl
  chain node hnode := by
    obtain rfl : node = start := by simpa [Search.init, Graph.init] using hnode
    exact .refl
  sorted := List.pairwise_singleton _ _
  edge caller callee hedge := absurd hedge (by simp [Search.init, Graph.init])
  near node _ := by omega
  waiting node _ := Nat.le_refl 0

/-- The next node is as far away as the current one, or one call farther. -/
theorem take (h : Levelled targets start depth current search) (hordered : Ordered start search)
    {node : Ref} {rest : List Ref} (hfrontier : search.frontier = node :: rest) :
    Levelled targets start depth node (search.take node rest) where
  start_eq := h.start_eq
  chain := h.chain
  sorted := h.sorted
  edge := h.edge
  near other hother := by
    have hnear := h.near other hother
    have hnode := h.waiting node (by simp [hfrontier])
    omega
  waiting other hother := by
    have hsorted := h.sorted
    rw [hordered.queue, hfrontier, List.pairwise_append] at hsorted
    exact List.rel_of_pairwise_cons hsorted.2.1 hother

theorem stop (h : Levelled targets start depth current search) (halt : Halt) :
    Levelled targets start depth current (search.stop halt) :=
  ⟨h.start_eq, h.chain, h.sorted, h.edge, h.near, h.waiting⟩

/-- A call to a node that is there already adds no more than an edge. -/
theorem discover_old (h : Levelled targets start depth current search)
    (hordered : Ordered start search) (hcurrent : current ∈ search.expanded) {target : Ref}
    (hold : target ∈ search.graph.nodes) :
    Levelled targets start depth current (search.discover current target) := by
  have hnodes : (search.discover current target).graph.nodes = search.graph.nodes := by
    rw [hordered.nodes_discover hcurrent, if_pos hold]
  have hfrontier : (search.discover current target).frontier = search.frontier := by
    simp [discover, Graph.isNewNode, Graph.contains, hold]
  refine ⟨h.start_eq, ?_, ?_, ?_, ?_, ?_⟩
  · rw [hnodes]
    exact h.chain
  · rw [hnodes]
    exact h.sorted
  · intro caller callee hedge
    rw [hnodes]
    rcases mem_edges_discover.mp hedge with hedge | hnew
    · exact h.edge caller callee hedge
    · obtain ⟨rfl, rfl⟩ := Prod.mk.inj hnew
      exact ⟨hordered.expanded_mem hcurrent, h.near callee hold⟩
  · rw [hnodes]
    exact h.near
  · rw [hfrontier]
    exact h.waiting

/-- Only the depths of nodes matter. -/
theorem congr (h : Levelled targets start depth current search) (hordered : Ordered start search)
    (hcurrent : current ∈ search.graph.nodes) {other : Ref → Nat}
    (heq : ∀ node ∈ search.graph.nodes, other node = depth node) :
    Levelled targets start other current search where
  start_eq := by rw [heq start hordered.start_mem, h.start_eq]
  chain node hnode := heq node hnode ▸ h.chain node hnode
  sorted := h.sorted.imp_of_mem fun {a b} ha hb hle => by rwa [heq a ha, heq b hb]
  edge caller callee hedge := by
    obtain ⟨hcaller, hle⟩ := h.edge caller callee hedge
    rw [heq caller hcaller, heq callee (hordered.callee_mem hedge)]
    exact ⟨hcaller, hle⟩
  near node hnode := by
    rw [heq node hnode, heq current hcurrent]
    exact h.near node hnode
  waiting node hnode := by
    have hmem : node ∈ search.graph.nodes := by
      rw [hordered.queue]
      exact List.mem_append.mpr (Or.inr hnode)
    rw [heq node hmem, heq current hcurrent]
    exact h.waiting node hnode

/-- A node that comes in is one call farther away than the current one, and no node is farther. -/
theorem discover_new (h : Levelled targets start depth current search)
    (hordered : Ordered start search) (hcurrent : current ∈ search.expanded) {target : Ref}
    (htarget : target ∈ targets current) (hnew : target ∉ search.graph.nodes)
    (hdepth : depth target = depth current + 1) :
    Levelled targets start depth current (search.discover current target) := by
  have hmem := hordered.expanded_mem hcurrent
  have hnodes : (search.discover current target).graph.nodes = search.graph.nodes ++ [target] := by
    rw [hordered.nodes_discover hcurrent, if_neg hnew]
  have hfrontier : (search.discover current target).frontier = search.frontier ++ [target] := by
    simp [discover, Graph.isNewNode, Graph.contains, hnew]
  refine ⟨h.start_eq, ?_, ?_, ?_, ?_, ?_⟩
  · intro node hnode
    rw [hnodes, List.mem_append, List.mem_singleton] at hnode
    rcases hnode with hnode | rfl
    · exact h.chain node hnode
    · rw [hdepth]
      exact .tail (h.chain current hmem) htarget
  · rw [hnodes, List.pairwise_append]
    refine ⟨h.sorted, List.pairwise_singleton _ _, ?_⟩
    intro node hnode other hother
    rw [List.mem_singleton.mp hother, hdepth]
    exact h.near node hnode
  · intro caller callee hedge
    rw [hnodes, List.mem_append]
    rcases mem_edges_discover.mp hedge with hedge | hlast
    · exact (h.edge caller callee hedge).imp_left Or.inl
    · obtain ⟨rfl, rfl⟩ := Prod.mk.inj hlast
      exact ⟨Or.inl hmem, hdepth.le⟩
  · intro node hnode
    rw [hnodes, List.mem_append, List.mem_singleton] at hnode
    rcases hnode with hnode | rfl
    · exact h.near node hnode
    · exact hdepth.le
  · intro node hnode
    rw [hfrontier, List.mem_append, List.mem_singleton] at hnode
    rcases hnode with hnode | rfl
    · exact h.waiting node hnode
    · omega

/-- Whatever the current node calls, the nodes still have depths. -/
theorem exists_discover (h : Levelled targets start depth current search)
    (hordered : Ordered start search) (hcurrent : current ∈ search.expanded) {target : Ref}
    (htarget : target ∈ targets current) :
    ∃ depth, Levelled targets start depth current (search.discover current target) := by
  by_cases hold : target ∈ search.graph.nodes
  · exact ⟨depth, h.discover_old hordered hcurrent hold⟩
  · -- Nothing is said of the new node so far: it gets a depth and the others keep theirs.
    have hmem := hordered.expanded_mem hcurrent
    have hsame : ∀ node ∈ search.graph.nodes,
        Function.update depth target (depth current + 1) node = depth node := by
      intro node hnode
      apply Function.update_of_ne
      rintro rfl
      exact hold hnode
    refine ⟨Function.update depth target (depth current + 1), ?_⟩
    refine (h.congr hordered hmem hsame).discover_new hordered hcurrent htarget hold ?_
    rw [Function.update_self, hsame current hmem]

/-- Following all calls of the next node keeps the nodes in the order of their depths. -/
theorem round (h : Levelled targets start depth current search) (hordered : Ordered start search)
    (limits : Limits) {node : Ref} {rest : List Ref} (hfrontier : search.frontier = node :: rest) :
    ∃ depth, Levelled targets start depth node
      ((targets node).foldl (follow limits node) (search.take node rest)) := by
  refine (foldl_follow_invariant limits targets (P := fun search =>
    Ordered start search ∧ ∃ depth, Levelled targets start depth node search) ?_ ?_
    (targets node) (fun _ => id) (by simp [Search.take])
    ⟨hordered.take hfrontier, depth, h.take hordered hfrontier⟩).2
  · rintro search target _ hnode htarget _ ⟨hordered, depth, h⟩
    exact ⟨hordered.discover hnode target, h.exists_discover hordered hnode htarget⟩
  · rintro search halt _ ⟨hordered, depth, h⟩
    exact ⟨hordered.stop halt, depth, h.stop halt⟩

/-- Every run keeps the nodes in the order of their depths. -/
theorem run (limits : Limits) (cancelAfter : Option Nat) (rounds : Nat)
    (h : Levelled targets start depth current search) (hordered : Ordered start search) :
    ∃ depth current, Levelled targets start depth current
      (Search.run limits targets cancelAfter rounds search) := by
  induction rounds generalizing search depth current with
  | zero => exact ⟨depth, current, h⟩
  | succ rounds ih =>
      cases hhalt : search.halt with
      | some halt =>
          rw [run_of_halt hhalt]
          exact ⟨depth, current, h⟩
      | none =>
          cases hfrontier : search.frontier with
          | nil =>
              rw [run_of_frontier_eq_nil hfrontier]
              exact ⟨depth, current, h⟩
          | cons node rest =>
              rw [run_succ hhalt hfrontier]
              split
              · exact ⟨depth, current, h.stop .cancelled⟩
              · obtain ⟨depth, hround⟩ := h.round hordered limits hfrontier
                exact ih hround (hordered.round limits targets hfrontier)

/-- If all calls of all nodes are edges, no chain of calls is shorter than the depth of its end. -/
theorem le_of_chain (h : Levelled targets start depth current search)
    (hordered : Ordered start search)
    (hclosed : ∀ caller ∈ search.graph.nodes, ∀ target ∈ targets caller,
      (caller, target) ∈ search.graph.edges)
    {length : Nat} {node : Ref} (hchain : Chain targets start length node) :
    node ∈ search.graph.nodes ∧ depth node ≤ length := by
  induction hchain with
  | refl => exact ⟨hordered.start_mem, h.start_eq.le⟩
  | tail _ htarget ih =>
      obtain ⟨hcaller, hle⟩ := ih
      have hedge := hclosed _ hcaller _ htarget
      have hstep := (h.edge _ _ hedge).2
      exact ⟨hordered.callee_mem hedge, by omega⟩

end Levelled

end Search

namespace Resolver

variable (resolver : Resolver) (store : Store) (start : Ref)

/-- The least number of calls by which the start reaches a function, or zero if it never does. -/
noncomputable def distance (ref : Ref) : Nat :=
  sInf {length | Search.Chain (resolver.targets store) start length ref}

theorem distance_eq {ref : Ref} {length : Nat}
    (hchain : Search.Chain (resolver.targets store) start length ref)
    (hleast : ∀ other, Search.Chain (resolver.targets store) start other ref → length ≤ other) :
    resolver.distance store start ref = length := by
  have hmem : Search.Chain (resolver.targets store) start (resolver.distance store start ref) ref :=
    Nat.sInf_mem (s := {length | Search.Chain (resolver.targets store) start length ref})
      ⟨length, hchain⟩
  exact Nat.le_antisymm (Nat.sInf_le hchain) (hleast _ hmem)

/-- The depths at which an unlimited search finds its nodes are their distances from the start. -/
theorem exists_levelled_distance :
    ∃ depth current,
      Search.Levelled (resolver.targets store) start depth current
        (resolver.search store {} none start) ∧
      ∀ node ∈ (resolver.search store {} none start).graph.nodes,
        resolver.distance store start node = depth node := by
  have hordered := resolver.search_ordered store start {} none
  obtain ⟨depth, current, h⟩ := (Search.Levelled.init (resolver.targets store) start).run {} none
    ((resolver.allTargets store).length + 1) (Search.Ordered.init start)
  refine ⟨depth, current, h, ?_⟩
  have hclosed : ∀ caller ∈ (resolver.search store {} none start).graph.nodes,
      ∀ target ∈ resolver.targets store caller,
        (caller, target) ∈ (resolver.search store {} none start).graph.edges := by
    intro caller hcaller target htarget
    rw [mem_search_edges, ← mem_targets]
    exact ⟨hcaller, htarget⟩
  intro node hnode
  apply resolver.distance_eq store start (h.chain node hnode)
  intro length hchain
  exact (h.le_of_chain hordered hclosed hchain).2

/-- A graph without budgets is in breadth-first order.  Its edges go node by node, each node having
one edge for every target, at the place of the first call to it; its nodes are the start and the
callees of these edges, in order of first occurrence; and no node stands before one that fewer calls
reach from the start. -/
theorem build_breadth_first :
    ∃ graph, resolver.build store {} none start = .ok graph ∧
      graph.edges = graph.nodes.flatMap (fun node =>
        ((resolver.outgoing store node).map (resolver.resolve store node.module)).eraseDups.map
          fun target => (node, target)) ∧
      graph.nodes = (start :: graph.edges.map Prod.snd).eraseDups ∧
      (∀ node ∈ graph.nodes, Search.Chain (resolver.targets store) start
        (resolver.distance store start node) node) ∧
      graph.nodes.Pairwise fun node later =>
        resolver.distance store start node ≤ resolver.distance store start later := by
  obtain ⟨depth, current, h, hdistance⟩ := resolver.exists_levelled_distance store start
  refine ⟨_, resolver.build_unlimited store start, ?_, ?_, ?_, ?_⟩
  · rw [(resolver.search_thorough store start).edges_eq, search_expanded_eq_nodes]
    rfl
  · exact (resolver.search_ordered store start {} none).nodes_eq
  · intro node hnode
    rw [hdistance node hnode]
    exact h.chain node hnode
  · refine h.sorted.imp_of_mem ?_
    intro node later hnode hlater hle
    rwa [hdistance node hnode, hdistance later hlater]

end Resolver

end CallAtlas
