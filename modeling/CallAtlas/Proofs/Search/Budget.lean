import CallAtlas.Proofs.Search.Reach

/-!
What budgets do to a graph.  A search with budgets takes the same steps as one without, until an
edge does not fit; there it stops.  So it has the longest beginning of the other's edges that the budgets
can pay for, and it is marked as truncated just when that is not all of them.

A node budget never takes the start away, and a negative edge budget is the same as one of zero.
-/

namespace CallAtlas

/-- Budgets that are whole numbers. -/
def Limits.ofCounts (maxNodes maxEdges : Option Int) : Limits :=
  { nodes := maxNodes.map .count, edges := maxEdges.map .count }

namespace Graph

theorem nodesOf_mono {edges more : List Edge} (hle : edges <+: more) (start : Ref) :
    nodesOf start edges <+: nodesOf start more := by
  obtain ⟨rest, rfl⟩ := hle
  rw [nodesOf, nodesOf, List.map_append, ← List.cons_append, List.eraseDups_append]
  exact List.prefix_append _ _

/-- Edges that budgets can pay for, with the nodes that they bring in. -/
structure Affordable (maxNodes maxEdges : Option Int) (start : Ref) (edges : List Edge) : Prop where
  nodes_le : ∀ limit, maxNodes = some limit → ((nodesOf start edges).length : Int) ≤ max limit 1
  edges_le : ∀ limit, maxEdges = some limit → (edges.length : Int) ≤ max limit 0

namespace Affordable

variable {maxNodes maxEdges : Option Int} {start : Ref} {edges more : List Edge}

theorem nil (maxNodes maxEdges : Option Int) (start : Ref) :
    Affordable maxNodes maxEdges start [] where
  nodes_le limit _ := by
    simp only [nodesOf, List.map_nil, List.eraseDups_cons, List.filter_nil, List.eraseDups_nil,
      List.length_singleton]
    omega
  edges_le limit _ := by
    simp only [List.length_nil]
    omega

theorem mono (h : Affordable maxNodes maxEdges start more) (hle : edges <+: more) :
    Affordable maxNodes maxEdges start edges where
  nodes_le limit hlimit := by
    have hlength := (nodesOf_mono hle start).length_le
    have hmore := h.nodes_le limit hlimit
    omega
  edges_le limit hlimit := by
    have hlength := hle.length_le
    have hmore := h.edges_le limit hlimit
    omega

/-- Edges that can be paid for, unlike one more of them, are the longest such beginning. -/
theorem le_length_of_take {full : List Edge} {edge : Edge} (hle : edges ++ [edge] <+: full)
    (hnext : ¬ Affordable maxNodes maxEdges start (edges ++ [edge])) {j : Nat}
    (hj : Affordable maxNodes maxEdges start (full.take j)) : j ≤ edges.length := by
  by_contra hlong
  apply hnext
  apply hj.mono
  rw [List.prefix_iff_eq_take.mp hle, List.length_append, List.length_singleton]
  exact List.take_prefix_take_left (by omega)

end Affordable

end Graph

namespace Search

/-- What stands in the way of an edge when the budgets are whole numbers: a node budget that is
reached if the target is new, an edge budget that is reached if the edge is new. -/
theorem obstacle_ofCounts (maxNodes maxEdges : Option Int) (graph : Graph) (caller target : Ref) :
    obstacle (.ofCounts maxNodes maxEdges) graph caller target =
      ((maxNodes.filter fun limit : Int =>
          decide (target ∉ graph.nodes ∧ limit ≤ graph.nodes.length)).map
            (Halt.nodes ∘ .count)).or
        ((maxEdges.filter fun limit : Int =>
          decide ((caller, target) ∉ graph.edges ∧ limit ≤ graph.edges.length)).map
            (Halt.edges ∘ .count)) := by
  refine congrArg₂ Option.or ?_ ?_
  · cases maxNodes with
    | none => simp [Limits.ofCounts]
    | some limit =>
        by_cases htarget : target ∈ graph.nodes <;>
          by_cases hreached : limit ≤ graph.nodes.length <;>
          simp [Limits.ofCounts, Graph.isNewNode, Graph.contains, Budget.reachedBy,
            Option.filter_some, htarget, hreached]
  · cases maxEdges with
    | none => rfl
    | some limit =>
        by_cases hedge : (caller, target) ∈ graph.edges <;>
          by_cases hreached : limit ≤ graph.edges.length <;>
          simp [Limits.ofCounts, Graph.isNewEdge, Graph.hasEdge, Budget.reachedBy,
            Option.filter_some, hedge, hreached]

section Budgeted

variable {maxNodes maxEdges : Option Int} {start : Ref} {search : Search} {caller target : Ref}

/-- What stops a search is a budget that a new node or a new edge would go beyond. -/
theorem obstacle_cases {halt : Halt}
    (hobstacle : obstacle (.ofCounts maxNodes maxEdges) search.graph caller target = some halt) :
    (∃ limit, maxNodes = some limit ∧ halt = .nodes (.count limit) ∧
        target ∉ search.graph.nodes ∧ limit ≤ search.graph.nodes.length) ∨
      (∃ limit, maxEdges = some limit ∧ halt = .edges (.count limit) ∧
        (caller, target) ∉ search.graph.edges ∧ limit ≤ search.graph.edges.length) := by
  rw [obstacle_ofCounts, Option.or_eq_some_iff] at hobstacle
  rcases hobstacle with hnodes | ⟨_, hedges⟩
  · obtain ⟨limit, hlimit, rfl⟩ := Option.map_eq_some_iff.mp hnodes
    obtain ⟨hlimit, hover⟩ := Option.filter_eq_some_iff.mp hlimit
    obtain ⟨htarget, hreached⟩ := of_decide_eq_true hover
    exact Or.inl ⟨limit, hlimit, rfl, htarget, hreached⟩
  · obtain ⟨limit, hlimit, rfl⟩ := Option.map_eq_some_iff.mp hedges
    obtain ⟨hlimit, hover⟩ := Option.filter_eq_some_iff.mp hlimit
    obtain ⟨hedge, hreached⟩ := of_decide_eq_true hover
    exact Or.inr ⟨limit, hlimit, rfl, hedge, hreached⟩

/-- The edge before which a search stops is a new one. -/
theorem Ordered.not_mem_of_obstacle (h : Ordered start search) {halt : Halt}
    (hobstacle : obstacle (.ofCounts maxNodes maxEdges) search.graph caller target = some halt) :
    (caller, target) ∉ search.graph.edges := by
  rcases obstacle_cases hobstacle with ⟨_, _, _, htarget, _⟩ | ⟨_, _, _, hedge, _⟩
  · exact fun hmem => htarget (h.callee_mem hmem)
  · exact hedge

/-- The edge before which a search stops is too much for the budgets. -/
theorem Ordered.not_affordable_of_obstacle (h : Ordered start search) {halt : Halt}
    (hobstacle : obstacle (.ofCounts maxNodes maxEdges) search.graph caller target = some halt) :
    ¬ Graph.Affordable maxNodes maxEdges start (search.graph.edges ++ [(caller, target)]) := by
  intro haffordable
  rcases obstacle_cases hobstacle with
    ⟨limit, hlimit, _, htarget, hreached⟩ | ⟨limit, hlimit, _, _, hreached⟩
  · have hle := haffordable.nodes_le limit hlimit
    have hpos := List.length_pos_of_mem h.start_mem
    rw [h.nodes_eq] at htarget hreached hpos
    rw [Graph.nodesOf_concat, if_neg htarget, List.length_append, List.length_singleton] at hle
    omega
  · have hle := haffordable.edges_le limit hlimit
    rw [List.length_append, List.length_singleton] at hle
    omega

/-- An edge that nothing stands in the way of can be paid for. -/
theorem Ordered.affordable_discover (h : Ordered start search)
    (haffordable : Graph.Affordable maxNodes maxEdges start search.graph.edges)
    (hfree : obstacle (.ofCounts maxNodes maxEdges) search.graph caller target = none) :
    Graph.Affordable maxNodes maxEdges start (search.discover caller target).graph.edges := by
  have hfits : (∀ limit, maxNodes = some limit → target ∉ search.graph.nodes →
        (search.graph.nodes.length : Int) < limit) ∧
      (∀ limit, maxEdges = some limit → (caller, target) ∉ search.graph.edges →
        (search.graph.edges.length : Int) < limit) := by
    simpa [obstacle_ofCounts] using hfree
  change Graph.Affordable maxNodes maxEdges start (search.graph.addEdge caller target).edges
  rw [Graph.edges_addEdge]
  by_cases hedge : (caller, target) ∈ search.graph.edges
  · rwa [if_pos hedge]
  · rw [if_neg hedge]
    constructor
    · intro limit hlimit
      rw [Graph.nodesOf_concat]
      by_cases htarget : target ∈ Graph.nodesOf start search.graph.edges
      · rw [if_pos htarget]
        exact haffordable.nodes_le limit hlimit
      · have hlt := hfits.1 limit hlimit (by rwa [h.nodes_eq])
        rw [h.nodes_eq] at hlt
        rw [if_neg htarget, List.length_append, List.length_singleton]
        omega
    · intro limit hlimit
      have hlt := hfits.2 limit hlimit hedge
      rw [List.length_append, List.length_singleton]
      omega

/-- A search never goes beyond its budgets. -/
theorem run_affordable (maxNodes maxEdges : Option Int) (targets : Ref → List Ref)
    (cancelAfter : Option Nat) (start : Ref) (rounds : Nat) :
    Graph.Affordable maxNodes maxEdges start
      (run (.ofCounts maxNodes maxEdges) targets cancelAfter rounds (.init start)).graph.edges := by
  have hrun := run_invariant (.ofCounts maxNodes maxEdges) targets cancelAfter
    (P := fun search => Ordered start search ∧
      Graph.Affordable maxNodes maxEdges start search.graph.edges)
    (fun _ _ _ _ hfrontier h => ⟨h.1.take hfrontier, h.2⟩)
    (fun _ _ target _ hcaller _ hfree h =>
      ⟨h.1.discover hcaller target, h.1.affordable_discover h.2 hfree⟩)
    (fun _ halt _ h => ⟨h.1.stop halt, h.2⟩) rounds
    ⟨Ordered.init start, Graph.Affordable.nil maxNodes maxEdges start⟩
  exact hrun.2

end Budgeted

section Lockstep

variable {limits : Limits} {targets : Ref → List Ref} {start : Ref} {held free search : Search}

theorem edges_mono_discover (caller target : Ref) (search : Search) :
    search.graph.edges <+: (search.discover caller target).graph.edges := by
  change _ <+: (search.graph.addEdge caller target).edges
  rw [Graph.edges_addEdge]
  split
  · exact List.prefix_refl _
  · exact List.prefix_append _ _

/-- Edges stay where they are. -/
theorem edges_mono_run (limits : Limits) (targets : Ref → List Ref) (cancelAfter : Option Nat)
    (rounds : Nat) (search : Search) :
    search.graph.edges <+: (run limits targets cancelAfter rounds search).graph.edges :=
  run_invariant limits targets cancelAfter
    (P := fun later => search.graph.edges <+: later.graph.edges)
    (fun _ _ _ _ _ h => h)
    (fun later caller target _ _ _ _ h => h.trans (edges_mono_discover caller target later))
    (fun _ _ _ h => h) rounds (List.prefix_refl _)

/-- A search with budgets beside one without: it has come as far, or it has stopped before an edge
that the other has added. -/
def Behind (limits : Limits) (held free : Search) : Prop :=
  held = free ∨ ∃ halt caller target, held.halt = some halt ∧
    obstacle limits held.graph caller target = some halt ∧
    held.graph.edges ++ [(caller, target)] <+: free.graph.edges

/-- A stopped search stays behind one that goes on. -/
theorem Behind.mono (h : Behind limits held free) {halt : Halt} (hhalt : held.halt = some halt)
    (hgoing : free.halt = none) {later : Search}
    (hle : free.graph.edges <+: later.graph.edges) : Behind limits held later := by
  rcases h with rfl | ⟨halt, caller, target, hheld, hobstacle, hedges⟩
  · rw [hgoing] at hhalt
    cases hhalt
  · exact Or.inr ⟨halt, caller, target, hheld, hobstacle, hedges.trans hle⟩

variable {maxNodes maxEdges : Option Int}

/-- Two searches that have come equally far follow the same call: the one with budgets may stop, and
then before a new edge. -/
theorem Behind.follow_self (hordered : Ordered start search) (hgoing : search.halt = none)
    (caller target : Ref) :
    Behind (.ofCounts maxNodes maxEdges)
      (follow (.ofCounts maxNodes maxEdges) caller search target)
      (search.discover caller target) := by
  rcases follow_cases hgoing (.ofCounts maxNodes maxEdges) caller target with
    ⟨halt, hobstacle, heq⟩ | ⟨_, heq⟩
  · have hnew := hordered.not_mem_of_obstacle hobstacle
    rw [heq]
    refine Or.inr ⟨halt, caller, target, rfl, hobstacle, ?_⟩
    change _ <+: (search.graph.addEdge caller target).edges
    rw [Graph.edges_addEdge, if_neg hnew]
    exact List.prefix_refl _
  · exact Or.inl heq

theorem Behind.foldl_follow (h : Behind (.ofCounts maxNodes maxEdges) held free)
    (hordered : Ordered start held) (hgoing : free.halt = none) {caller : Ref}
    (hcaller : caller ∈ held.expanded) (calls : List Ref) :
    Behind (.ofCounts maxNodes maxEdges)
        (calls.foldl (follow (.ofCounts maxNodes maxEdges) caller) held)
        (calls.foldl (follow {} caller) free) ∧
      (calls.foldl (follow {} caller) free).halt = none := by
  induction calls generalizing held free with
  | nil => exact ⟨h, hgoing⟩
  | cons target rest ih =>
      rw [List.foldl_cons, List.foldl_cons, follow_unlimited hgoing]
      cases hhalt : held.halt with
      | some halt =>
          rw [follow_of_halt hhalt]
          exact ih (h.mono hhalt hgoing (edges_mono_discover caller target free)) hordered hgoing
            hcaller
      | none =>
          rcases h with rfl | ⟨halt, _, _, hheld, _, _⟩
          · apply ih (Behind.follow_self hordered hhalt caller target) _ hgoing
            · rwa [expanded_follow]
            · rcases follow_cases hhalt (.ofCounts maxNodes maxEdges) caller target with
                ⟨halt, _, heq⟩ | ⟨_, heq⟩
              · rw [heq]
                exact hordered.stop halt
              · rw [heq]
                exact hordered.discover hcaller target
          · rw [hhalt] at hheld
            cases hheld

/-- With budgets, a search is at every round as far as without, or it has stopped. -/
theorem Behind.run (hordered : Ordered start search) (hgoing : search.halt = none)
    (targets : Ref → List Ref) (rounds : Nat) :
    Behind (.ofCounts maxNodes maxEdges)
      (Search.run (.ofCounts maxNodes maxEdges) targets none rounds search)
      (Search.run {} targets none rounds search) := by
  induction rounds generalizing search with
  | zero => exact Or.inl rfl
  | succ rounds ih =>
      cases hfrontier : search.frontier with
      | nil =>
          rw [run_of_frontier_eq_nil hfrontier, run_of_frontier_eq_nil hfrontier]
          exact Or.inl rfl
      | cons node rest =>
          rw [run_succ hgoing hfrontier, run_succ hgoing hfrontier,
            if_neg (by simp [isCancelled]), if_neg (by simp [isCancelled])]
          have htaken := hordered.take hfrontier
          have hround := hordered.round (.ofCounts maxNodes maxEdges) targets hfrontier
          obtain ⟨hbehind, hfree⟩ := Behind.foldl_follow (Or.inl rfl) htaken hgoing
            (List.mem_append.mpr (Or.inr (List.mem_singleton.mpr rfl))) (targets node)
          generalize (targets node).foldl (follow (.ofCounts maxNodes maxEdges) node)
            (search.take node rest) = held at hbehind hround ⊢
          cases hhalt : held.halt with
          | some halt =>
              rw [run_of_halt hhalt]
              exact hbehind.mono hhalt hfree (edges_mono_run {} targets none rounds _)
          | none =>
              rcases hbehind with heq | ⟨halt, _, _, hheld, _, _⟩
              · rw [← heq]
                exact ih hround hhalt
              · rw [hhalt] at hheld
                cases hheld

end Lockstep

end Search

namespace Resolver

open CallAtlas.Graph

theorem search_behind (resolver : Resolver) (store : Store) (maxNodes maxEdges : Option Int)
    (start : Ref) :
    Search.Behind (.ofCounts maxNodes maxEdges)
      (resolver.search store (.ofCounts maxNodes maxEdges) none start)
      (resolver.search store {} none start) :=
  Search.Behind.run (Search.Ordered.init start) rfl _ _

/-- With whole numbers as budgets, a build gives a graph, marked if the search was stopped. -/
theorem build_ofCounts (resolver : Resolver) (store : Store) (maxNodes maxEdges : Option Int)
    (start : Ref) :
    resolver.build store (.ofCounts maxNodes maxEdges) none start =
      .ok { (resolver.search store (.ofCounts maxNodes maxEdges) none start).graph with
        truncated :=
          (resolver.search store (.ofCounts maxNodes maxEdges) none start).halt.isSome } := by
  have htruncated := resolver.search_truncated store start (.ofCounts maxNodes maxEdges) none
  have hbehind := resolver.search_behind store maxNodes maxEdges start
  unfold build
  generalize resolver.search store (.ofCounts maxNodes maxEdges) none start = held at *
  rcases hbehind with rfl | ⟨halt, caller, target, hhalt, hobstacle, _⟩
  · rw [outcome, (resolver.search_thorough store start).going, Option.isSome_none, ← htruncated]
  · rcases Search.obstacle_cases hobstacle with ⟨limit, _, rfl, _⟩ | ⟨limit, _, rfl, _⟩ <;>
      rw [outcome, hhalt, Option.isSome_some]

/-- Budgets cut a graph down to the longest beginning of its edges that they can pay for, and its
nodes to what these edges bring in.  The graph is marked as truncated just when edges are
missing. -/
theorem build_longest_affordable (resolver : Resolver) (store : Store) (start : Ref)
    (maxNodes maxEdges : Option Int) :
    ∃ full graph, resolver.build store {} none start = .ok full ∧
      resolver.build store (.ofCounts maxNodes maxEdges) none start = .ok graph ∧
      ∃ k ≤ full.edges.length,
        Affordable maxNodes maxEdges start (full.edges.take k) ∧
        (∀ j ≤ full.edges.length,
          Affordable maxNodes maxEdges start (full.edges.take j) → j ≤ k) ∧
        graph.edges = full.edges.take k ∧
        graph.nodes = nodesOf start (full.edges.take k) ∧
        (graph.truncated = true ↔ k < full.edges.length) := by
  refine ⟨_, _, resolver.build_unlimited store start,
    resolver.build_ofCounts store maxNodes maxEdges start,
    (resolver.search store (.ofCounts maxNodes maxEdges) none start).graph.edges.length, ?_⟩
  have hordered := resolver.search_ordered store start (.ofCounts maxNodes maxEdges) none
  have haffordable : Affordable maxNodes maxEdges start
      (resolver.search store (.ofCounts maxNodes maxEdges) none start).graph.edges :=
    Search.run_affordable maxNodes maxEdges (resolver.targets store) none start _
  have hbehind := resolver.search_behind store maxNodes maxEdges start
  generalize resolver.search store (.ofCounts maxNodes maxEdges) none start = held at *
  rcases hbehind with rfl | ⟨halt, caller, target, hhalt, hobstacle, hle⟩
  · have hgoing := (resolver.search_thorough store start).going
    rw [List.take_length]
    exact ⟨Nat.le_refl _, haffordable, fun j hj _ => hj, rfl, hordered.nodes_eq, by simp [hgoing]⟩
  · have hedges := List.prefix_iff_eq_take.mp ((List.prefix_append _ _).trans hle)
    have hlt := hle.length_le
    rw [List.length_append, List.length_singleton] at hlt
    rw [← hedges]
    refine ⟨by omega, haffordable, ?_, rfl, hordered.nodes_eq, ?_⟩
    · exact fun j _ => Affordable.le_length_of_take hle
        (hordered.not_affordable_of_obstacle hobstacle)
    · simp only [hhalt, Option.isSome_some, true_iff]
      omega

end Resolver

end CallAtlas
