import Mathlib.Logic.Relation
import CallAtlas.Proofs.Search.Order

/-!
What a search finds.  Every node it takes up is another one, and all of them are the start or targets
of calls, so it ends; a search that nothing stopped has then followed every call of every node.  Its
nodes are what the start reaches, and its edges the calls between them.
-/

namespace CallAtlas

namespace Search

section Bound

variable (limits : Limits) (targets : Ref → List Ref) (cancelAfter : Option Nat)

/-- A search is over when something stopped it or nothing waits. -/
def IsOver (search : Search) : Prop := search.halt ≠ none ∨ search.frontier = []

/-- Every round takes up one node more, unless the search is over. -/
theorem run_isOver_or_length (rounds : Nat) (search : Search) :
    (run limits targets cancelAfter rounds search).IsOver ∨
      (run limits targets cancelAfter rounds search).expanded.length =
        search.expanded.length + rounds := by
  induction rounds generalizing search with
  | zero => exact Or.inr rfl
  | succ rounds ih =>
      cases hhalt : search.halt with
      | some halt =>
          rw [run_of_halt hhalt]
          exact Or.inl (Or.inl (by simp [hhalt]))
      | none =>
          cases hfrontier : search.frontier with
          | nil =>
              rw [run_of_frontier_eq_nil hfrontier]
              exact Or.inl (Or.inr hfrontier)
          | cons node rest =>
              rw [run_succ hhalt hfrontier]
              split
              · exact Or.inl (Or.inl (by simp [stop]))
              · have hround := ih ((targets node).foldl (follow limits node)
                  (search.take node rest))
                simp only [expanded_foldl_follow] at hround
                simpa [take, Nat.add_assoc, Nat.add_comm 1 rounds] using hround

/-- What holds of the start and passes from callers to targets holds of every node. -/
theorem run_nodes_induction {start : Ref} {Q : Ref → Prop} (hstart : Q start)
    (hstep : ∀ caller target, Q caller → target ∈ targets caller → Q target)
    (rounds : Nat) :
    ∀ node ∈ (run limits targets cancelAfter rounds (.init start)).graph.nodes, Q node := by
  have hrun : Ordered start (run limits targets cancelAfter rounds (.init start)) ∧
      ∀ node ∈ (run limits targets cancelAfter rounds (.init start)).graph.nodes, Q node := by
    refine run_invariant limits targets cancelAfter (P := fun search =>
      Ordered start search ∧ ∀ node ∈ search.graph.nodes, Q node) ?_ ?_ ?_ rounds
      ⟨Ordered.init start, by simpa [init, Graph.init] using hstart⟩
    · exact fun search node rest _ hfrontier h => ⟨h.1.take hfrontier, h.2⟩
    · intro search caller target _ hcaller htarget _ h
      refine ⟨h.1.discover hcaller target, ?_⟩
      intro node hnode
      rw [h.1.nodes_discover hcaller] at hnode
      split at hnode
      · exact h.2 node hnode
      · rcases List.mem_append.mp hnode with hold | hnew
        · exact h.2 node hold
        · rw [List.mem_singleton.mp hnew]
          exact hstep caller target (h.2 caller (h.1.expanded_mem hcaller)) htarget
    · exact fun search halt _ h => ⟨h.1.stop halt, h.2⟩
  exact hrun.2

/-- The nodes of a search are no more than the start and the targets there are. -/
theorem run_nodes_length_le (start : Ref) (all : List Ref)
    (hall : ∀ caller, ∀ target ∈ targets caller, target ∈ all) (rounds : Nat) :
    (run limits targets cancelAfter rounds (.init start)).graph.nodes.length ≤ all.length + 1 := by
  have hnodup := ((Ordered.init start).run limits targets cancelAfter rounds).nodup
  have hsubset : (run limits targets cancelAfter rounds (.init start)).graph.nodes ⊆
      start :: all := by
    intro node hnode
    refine run_nodes_induction limits targets cancelAfter (Q := (· ∈ start :: all))
      List.mem_cons_self ?_ rounds node hnode
    exact fun caller target _ htarget => List.mem_cons_of_mem start (hall caller target htarget)
  exact (List.subperm_of_subset hnodup hsubset).length_le

/-- A search that may take up the start and every target is over at its end. -/
theorem run_isOver (start : Ref) (all : List Ref)
    (hall : ∀ caller, ∀ target ∈ targets caller, target ∈ all) :
    (run limits targets cancelAfter (all.length + 1) (.init start)).IsOver := by
  rcases run_isOver_or_length limits targets cancelAfter (all.length + 1) (.init start) with
    hover | hlength
  · exact hover
  · have hqueue := congrArg List.length
      ((Ordered.init start).run limits targets cancelAfter (all.length + 1)).queue
    have hbound := run_nodes_length_le limits targets cancelAfter start all hall (all.length + 1)
    have hnone : (init start).expanded.length = 0 := rfl
    rw [List.length_append] at hqueue
    exact Or.inr (List.eq_nil_of_length_eq_zero (by omega))

end Bound

section Unlimited

variable {targets : Ref → List Ref} {start : Ref} {search : Search}

@[simp] theorem obstacle_unlimited (graph : Graph) (caller target : Ref) :
    obstacle {} graph caller target = none := by
  simp [obstacle]

theorem follow_unlimited (hgoing : search.halt = none) (caller target : Ref) :
    follow {} caller search target = search.discover caller target := by
  rcases follow_cases hgoing {} caller target with ⟨halt, hhalt, _⟩ | ⟨_, heq⟩
  · simp at hhalt
  · exact heq

/-- Following calls of a node that had none adds one edge for every target, at the place of its first
call. -/
theorem foldl_follow_unlimited (hgoing : search.halt = none) {caller : Ref}
    (hfresh : ∀ target, (caller, target) ∉ search.graph.edges) (calls : List Ref) :
    (calls.foldl (follow {} caller) search).halt = none ∧
      (calls.foldl (follow {} caller) search).graph.edges =
        search.graph.edges ++ calls.eraseDups.map (caller, ·) := by
  induction calls using List.reverseRecOn with
  | nil => simpa using hgoing
  | append_singleton calls target ih =>
      obtain ⟨hhalt, hedges⟩ := ih
      rw [List.foldl_append, List.foldl_cons, List.foldl_nil, follow_unlimited hhalt]
      refine ⟨hhalt, ?_⟩
      change (Graph.addEdge _ caller target).edges = _
      have hmem : (caller, target) ∈ search.graph.edges ++ calls.eraseDups.map (caller, ·) ↔
          target ∈ calls := by
        simp [hfresh target, List.mem_eraseDups]
      rw [Graph.edges_addEdge, hedges, eraseDups_concat]
      simp only [hmem]
      split <;> simp

/-- A search that goes on and has followed every call of the nodes it took up, node by node. -/
structure Thorough (targets : Ref → List Ref) (search : Search) : Prop where
  going : search.halt = none
  edges_eq : search.graph.edges =
    search.expanded.flatMap fun node => (targets node).eraseDups.map (node, ·)

theorem Thorough.init (targets : Ref → List Ref) (start : Ref) : Thorough targets (.init start) :=
  ⟨rfl, rfl⟩

theorem Thorough.mem_edges (h : Thorough targets search) {caller callee : Ref} :
    (caller, callee) ∈ search.graph.edges ↔
      caller ∈ search.expanded ∧ callee ∈ targets caller := by
  rw [h.edges_eq]
  simp [List.mem_eraseDups]

/-- One round without budgets: the node it takes up is a new one, so that its edges are new as
well. -/
theorem Thorough.round (h : Thorough targets search) (hordered : Ordered start search) {node : Ref}
    {rest : List Ref} (hfrontier : search.frontier = node :: rest) :
    Thorough targets ((targets node).foldl (follow {} node) (search.take node rest)) := by
  have hfresh : ∀ target, (node, target) ∉ (search.take node rest).graph.edges := by
    intro target hedge
    have hnodup := hordered.nodup
    rw [hordered.queue, hfrontier] at hnodup
    have hexpanded := (h.mem_edges.mp hedge).1
    exact (List.nodup_append.mp hnodup).2.2 node hexpanded node List.mem_cons_self rfl
  have hgoing : (search.take node rest).halt = none := h.going
  obtain ⟨hhalt, hedges⟩ := foldl_follow_unlimited hgoing hfresh (targets node)
  refine ⟨hhalt, ?_⟩
  rw [hedges, expanded_foldl_follow]
  change search.graph.edges ++ _ = (search.expanded ++ [node]).flatMap _
  rw [h.edges_eq, List.flatMap_append, List.flatMap_singleton]

theorem Thorough.run (h : Thorough targets search) (hordered : Ordered start search)
    (rounds : Nat) : Thorough targets (Search.run {} targets none rounds search) := by
  induction rounds generalizing search with
  | zero => exact h
  | succ rounds ih =>
      cases hfrontier : search.frontier with
      | nil => rwa [run_of_frontier_eq_nil hfrontier]
      | cons node rest =>
          rw [run_succ h.going hfrontier, if_neg (by simp [isCancelled])]
          exact ih (h.round hordered hfrontier) (hordered.round {} targets hfrontier)

end Unlimited

end Search

namespace Resolver

variable (resolver : Resolver) (store : Store)

/-- A function calls another if one of its calls means the other. -/
def Calls (caller callee : Ref) : Prop :=
  ∃ call ∈ resolver.outgoing store caller, resolver.resolve store caller.module call = callee

/-- A function reaches what a chain of calls leads to. -/
def Reaches : Ref → Ref → Prop := Relation.ReflTransGen (resolver.Calls store)

theorem mem_targets {caller callee : Ref} :
    callee ∈ resolver.targets store caller ↔ resolver.Calls store caller callee :=
  List.mem_map

/-- What a function calls is what a call of a stored clause means. -/
theorem exists_stored_call {caller callee : Ref}
    (hcallee : callee ∈ resolver.targets store caller) :
    ∃ block clause call, store.get? caller.module = some block ∧ clause ∈ block.clauses ∧
      call ∈ clause.calls ∧ resolver.resolve store caller.module call = callee := by
  obtain ⟨call, hcall, rfl⟩ := List.mem_map.mp hcallee
  obtain ⟨clause, hclause, hmade⟩ := List.mem_flatMap.mp hcall
  unfold clauses at hclause
  cases hblock : store.get? caller.module with
  | none => simp [hblock] at hclause
  | some block =>
      simp only [hblock, Block.clausesOf, List.mem_filter] at hclause
      exact ⟨block, clause, call, rfl, hclause.1.1, hmade, rfl⟩

/-- What a call from `module` means has its name and its arity. -/
theorem function_arity_resolve (module : Text) (call : Call) :
    (resolver.resolve store module call).function = call.name ∧
      (resolver.resolve store module call).arity = call.arity := by
  unfold resolve
  split
  · exact ⟨rfl, rfl⟩
  · split
    · exact ⟨rfl, rfl⟩
    · split
      · split <;> exact ⟨rfl, rfl⟩
      · exact ⟨rfl, rfl⟩

theorem resolve_mem_allTargets {module : Text} {block : Block} {clause : Clause} {call : Call}
    (hblock : store.get? module = some block) (hclause : clause ∈ block.clauses)
    (hcall : call ∈ clause.calls) :
    resolver.resolve store module call ∈ resolver.allTargets store := by
  refine List.mem_flatMap.mpr ⟨(module, block), Table.mem_of_find hblock, ?_⟩
  exact List.mem_flatMap.mpr ⟨clause, hclause, List.mem_map_of_mem hcall⟩

theorem mem_allTargets {caller callee : Ref} (hcallee : callee ∈ resolver.targets store caller) :
    callee ∈ resolver.allTargets store := by
  obtain ⟨block, clause, call, hblock, hclause, hcall, rfl⟩ :=
    resolver.exists_stored_call store hcallee
  exact resolver.resolve_mem_allTargets store hblock hclause hcall

variable (start : Ref)

/-- The search of a build is over when the build gives its result. -/
theorem search_isOver (limits : Limits) (cancelAfter : Option Nat) :
    (resolver.search store limits cancelAfter start).IsOver :=
  Search.run_isOver limits (resolver.targets store) cancelAfter start (resolver.allTargets store)
    fun _ _ => resolver.mem_allTargets store

theorem search_ordered (limits : Limits) (cancelAfter : Option Nat) :
    Search.Ordered start (resolver.search store limits cancelAfter start) :=
  (Search.Ordered.init start).run limits (resolver.targets store) cancelAfter _

/-- Without budgets and signal, a search takes every node up and follows all its calls. -/
theorem search_thorough :
    Search.Thorough (resolver.targets store) (resolver.search store {} none start) :=
  (Search.Thorough.init (resolver.targets store) start).run (Search.Ordered.init start) _

theorem search_expanded_eq_nodes :
    (resolver.search store {} none start).expanded =
      (resolver.search store {} none start).graph.nodes := by
  have hgoing := (resolver.search_thorough store start).going
  rcases resolver.search_isOver store start {} none with hhalt | hfrontier
  · exact absurd hgoing hhalt
  · rw [(resolver.search_ordered store start {} none).queue, hfrontier, List.append_nil]

theorem mem_search_edges {caller callee : Ref} :
    (caller, callee) ∈ (resolver.search store {} none start).graph.edges ↔
      caller ∈ (resolver.search store {} none start).graph.nodes ∧
        resolver.Calls store caller callee := by
  rw [(resolver.search_thorough store start).mem_edges, search_expanded_eq_nodes, mem_targets]

theorem mem_search_nodes {ref : Ref} :
    ref ∈ (resolver.search store {} none start).graph.nodes ↔
      resolver.Reaches store start ref := by
  constructor
  · refine Search.run_nodes_induction {} (resolver.targets store) none
      Relation.ReflTransGen.refl ?_ _ ref
    intro caller target hcaller htarget
    exact hcaller.tail ((resolver.mem_targets store).mp htarget)
  · intro hreach
    have hordered := resolver.search_ordered store start {} none
    induction hreach with
    | refl => exact hordered.start_mem
    | tail _ hcall ih =>
        exact hordered.callee_mem ((resolver.mem_search_edges store start).mpr ⟨ih, hcall⟩)

theorem search_truncated (limits : Limits) (cancelAfter : Option Nat) :
    (resolver.search store limits cancelAfter start).graph.truncated = false :=
  Search.run_invariant limits (resolver.targets store) cancelAfter
    (P := fun search => search.graph.truncated = false)
    (fun _ _ _ _ _ h => h) (fun _ _ _ _ _ _ _ h => by simpa [Search.discover] using h)
    (fun _ _ _ h => h) _ rfl

/-- Every edge is a call of its caller, whatever stopped the search. -/
theorem calls_of_mem_search_edges {limits : Limits} {cancelAfter : Option Nat} {caller callee : Ref}
    (hedge : (caller, callee) ∈ (resolver.search store limits cancelAfter start).graph.edges) :
    resolver.Calls store caller callee := by
  have hrun : ∀ edge ∈ (resolver.search store limits cancelAfter start).graph.edges,
      edge.2 ∈ resolver.targets store edge.1 := by
    refine Search.run_invariant limits (resolver.targets store) cancelAfter
      (P := fun search => ∀ edge ∈ search.graph.edges, edge.2 ∈ resolver.targets store edge.1)
      (fun _ _ _ _ _ h => h) ?_ (fun _ _ _ h => h) _ (by simp [Search.init, Graph.init])
    intro search caller target _ _ htarget _ h edge hedge
    change edge ∈ (search.graph.addEdge caller target).edges at hedge
    rw [Graph.edges_addEdge] at hedge
    split at hedge
    · exact h edge hedge
    · rcases List.mem_append.mp hedge with hold | hnew
      · exact h edge hold
      · rw [List.mem_singleton.mp hnew]
        exact htarget
  exact (resolver.mem_targets store).mp (hrun (caller, callee) hedge)

/-- A graph that was built has the nodes and the edges of its search. -/
theorem nodes_edges_of_build {limits : Limits} {cancelAfter : Option Nat} {graph : Graph}
    (h : resolver.build store limits cancelAfter start = .ok graph) :
    graph.nodes = (resolver.search store limits cancelAfter start).graph.nodes ∧
      graph.edges = (resolver.search store limits cancelAfter start).graph.edges := by
  unfold build outcome at h
  split at h
  · obtain rfl := Except.ok.inj h
    exact ⟨rfl, rfl⟩
  · obtain rfl := Except.ok.inj h
    exact ⟨rfl, rfl⟩
  · obtain rfl := Except.ok.inj h
    exact ⟨rfl, rfl⟩
  · cases h
  · cases h

theorem build_unlimited :
    resolver.build store {} none start = .ok (resolver.search store {} none start).graph := by
  rw [build, outcome, (resolver.search_thorough store start).going]

/-- The graph of a start, without budgets and signal, is complete and not marked as truncated: its
nodes are exactly what the start reaches, its edges exactly the calls that these make. -/
theorem build_exact_reachability :
    ∃ graph, resolver.build store {} none start = .ok graph ∧ graph.truncated = false ∧
      (∀ ref, ref ∈ graph.nodes ↔ resolver.Reaches store start ref) ∧
      ∀ caller callee, (caller, callee) ∈ graph.edges ↔
        resolver.Reaches store start caller ∧ resolver.Calls store caller callee := by
  refine ⟨_, resolver.build_unlimited store start, resolver.search_truncated store start {} none,
    fun ref => resolver.mem_search_nodes store start, ?_⟩
  intro caller callee
  rw [mem_search_edges, mem_search_nodes]

end Resolver

end CallAtlas
