import CallAtlas.Proofs.Search.Order

/-!
Graphs that are made by adding nodes and edges.  A graph holds three things that say the same in
part: its nodes, its edges, and the index of callees.  An addition changes one after the other, or
none of them, and leaves them in agreement; so they agree after any additions.
-/

namespace CallAtlas.Graph

/-- Something to be added to a graph. -/
inductive Addition where
  | node (node : Ref)
  | edge (caller callee : Ref)
deriving Repr, DecidableEq

/-- The graph with something added. -/
def add (graph : Graph) : Addition → Graph
  | .node node => graph.addNode node
  | .edge caller callee => graph.addEdge caller callee

/-- The answer to an addition: whether it adds something. -/
def isNew (graph : Graph) : Addition → Bool
  | .node node => graph.isNewNode node
  | .edge caller callee => graph.isNewEdge caller callee

/-- Whether what is to be added is there. -/
def Has (graph : Graph) : Addition → Prop
  | .node node => node ∈ graph.nodes
  | .edge caller callee => (caller, callee) ∈ graph.edges

/-- The graph after some additions. -/
def after (graph : Graph) (additions : List Addition) : Graph := additions.foldl add graph

theorem after_concat (graph : Graph) (additions : List Addition) (last : Addition) :
    graph.after (additions ++ [last]) = (graph.after additions).add last := by
  simp [after, List.foldl_append]

/-- The three parts of a graph agree. -/
structure Agrees (start : Ref) (graph : Graph) : Prop where
  head?_nodes : graph.nodes.head? = some start
  nodup_nodes : graph.nodes.Nodup
  nodup_edges : graph.edges.Nodup
  ends_mem : ∀ edge ∈ graph.edges, edge.1 ∈ graph.nodes ∧ edge.2 ∈ graph.nodes
  keys_out : graph.out.keys = graph.nodes
  callees_eq : ∀ ref, graph.callees ref =
    (graph.edges.filter fun edge => edge.1 = ref).map Prod.snd

section Step

variable {start : Ref} {graph : Graph}

theorem addNode_of_mem {node : Ref} (hnode : node ∈ graph.nodes) : graph.addNode node = graph := by
  simp [addNode, contains, hnode]

theorem addEdge_of_mem {caller callee : Ref} (hedge : (caller, callee) ∈ graph.edges) :
    graph.addEdge caller callee = graph := by
  simp [addEdge, hasEdge, hedge]

theorem mem_nodes_addNode {node other : Ref} :
    other ∈ (graph.addNode node).nodes ↔ other ∈ graph.nodes ∨ other = node := by
  rw [nodes_addNode]
  by_cases hnode : node ∈ graph.nodes
  · rw [if_pos hnode]
    constructor
    · exact Or.inl
    · rintro (hother | rfl)
      · exact hother
      · exact hnode
  · rw [if_neg hnode, List.mem_append, List.mem_singleton]

/-- A new edge brings its ends in first. -/
theorem nodes_addEdge_of_not_mem {caller callee : Ref} (hedge : (caller, callee) ∉ graph.edges) :
    (graph.addEdge caller callee).nodes = ((graph.addNode caller).addNode callee).nodes := by
  simp [addEdge, hasEdge, hedge]

theorem prefix_nodes_addNode (graph : Graph) (node : Ref) :
    graph.nodes <+: (graph.addNode node).nodes := by
  rw [nodes_addNode]
  split
  · exact List.prefix_refl _
  · exact List.prefix_append _ _

namespace Agrees

theorem init (start : Ref) : Agrees start (.init start) where
  head?_nodes := rfl
  nodup_nodes := List.nodup_singleton start
  nodup_edges := List.nodup_nil
  ends_mem := by simp [Graph.init]
  keys_out := rfl
  callees_eq ref := by
    by_cases href : start = ref <;>
      simp [callees, Graph.init, Table.get?_insert, href]

/-- What is no node has no entry in the index. -/
theorem get?_out (h : Agrees start graph) {ref : Ref} :
    graph.out.get? ref = none ↔ ref ∉ graph.nodes := by
  rw [Table.get?_eq_none_iff, h.keys_out]

/-- A new node has no callees, like one that is not there. -/
theorem callees_addNode (h : Agrees start graph) (node ref : Ref) :
    (graph.addNode node).callees ref = graph.callees ref := by
  by_cases hnode : node ∈ graph.nodes
  · rw [addNode_of_mem hnode]
  · have hnone : graph.out.get? node = none := h.get?_out.mpr hnode
    by_cases href : node = ref
    · subst href
      simp [callees, addNode, contains, hnode, Table.get?_insert, hnone]
    · simp [callees, addNode, contains, hnode, Table.get?_insert, href]

theorem addNode (h : Agrees start graph) (node : Ref) : Agrees start (graph.addNode node) where
  head?_nodes := by
    obtain ⟨rest, hrest⟩ := prefix_nodes_addNode graph node
    rw [← hrest, List.head?_append, h.head?_nodes]
    rfl
  nodup_nodes := by
    rw [nodes_addNode]
    split
    · exact h.nodup_nodes
    · rename_i hnode
      rw [← List.concat_eq_append]
      exact h.nodup_nodes.concat hnode
  nodup_edges := by
    rw [edges_addNode]
    exact h.nodup_edges
  ends_mem := by
    intro edge hedge
    rw [edges_addNode] at hedge
    obtain ⟨hcaller, hcallee⟩ := h.ends_mem edge hedge
    exact ⟨mem_nodes_addNode.mpr (Or.inl hcaller), mem_nodes_addNode.mpr (Or.inl hcallee)⟩
  keys_out := by
    by_cases hnode : node ∈ graph.nodes
    · rw [addNode_of_mem hnode]
      exact h.keys_out
    · rw [nodes_addNode, if_neg hnode]
      simp only [Graph.addNode, contains, hnode, decide_false, Bool.false_eq_true, if_false]
      rw [Table.keys_insert, h.keys_out, if_neg hnode]
  callees_eq := by
    intro ref
    rw [h.callees_addNode, edges_addNode]
    exact h.callees_eq ref

/-- When an edge is added its caller has an entry in the index. -/
theorem isSome_get?_out (h : Agrees start graph) (caller callee : Ref) :
    (((graph.addNode caller).addNode callee).out.get? caller).isSome = true := by
  have hends := (h.addNode caller).addNode callee
  have hcaller : caller ∈ ((graph.addNode caller).addNode callee).nodes :=
    mem_nodes_addNode.mpr (Or.inl (mem_nodes_addNode.mpr (Or.inr rfl)))
  rw [Option.isSome_iff_ne_none]
  intro hnone
  exact hends.get?_out.mp hnone hcaller

/-- A new edge between nodes. -/
theorem link (h : Agrees start graph) {caller callee : Ref} (hcaller : caller ∈ graph.nodes)
    (hcallee : callee ∈ graph.nodes) (hedge : (caller, callee) ∉ graph.edges) :
    Agrees start { graph with
      edges := graph.edges ++ [(caller, callee)]
      out := graph.out.insert caller ((graph.out.get? caller).getD [] ++ [callee]) } where
  head?_nodes := h.head?_nodes
  nodup_nodes := h.nodup_nodes
  nodup_edges := by
    rw [← List.concat_eq_append]
    exact h.nodup_edges.concat hedge
  ends_mem := by
    intro edge hmem
    rcases List.mem_append.mp hmem with hold | hnew
    · exact h.ends_mem edge hold
    · rw [List.mem_singleton.mp hnew]
      exact ⟨hcaller, hcallee⟩
  keys_out := by
    rw [Table.keys_insert, h.keys_out, if_pos hcaller]
  callees_eq := by
    intro ref
    have hold := h.callees_eq ref
    unfold callees at hold ⊢
    rw [Table.get?_insert, List.filter_append, List.map_append, ← hold]
    by_cases href : caller = ref <;> simp [href]

theorem addEdge (h : Agrees start graph) (caller callee : Ref) :
    Agrees start (graph.addEdge caller callee) := by
  by_cases hedge : (caller, callee) ∈ graph.edges
  · rw [addEdge_of_mem hedge]
    exact h
  · have hends := (h.addNode caller).addNode callee
    have hcaller : caller ∈ ((graph.addNode caller).addNode callee).nodes :=
      mem_nodes_addNode.mpr (Or.inl (mem_nodes_addNode.mpr (Or.inr rfl)))
    have hcallee : callee ∈ ((graph.addNode caller).addNode callee).nodes :=
      mem_nodes_addNode.mpr (Or.inr rfl)
    have hlinked := hends.link hcaller hcallee (by rwa [edges_addNode, edges_addNode])
    simpa [Graph.addEdge, hasEdge, hedge] using hlinked

theorem add (h : Agrees start graph) (addition : Addition) : Agrees start (graph.add addition) := by
  cases addition with
  | node node => exact h.addNode node
  | edge caller callee => exact h.addEdge caller callee

/-- Any additions leave the parts of a graph in agreement. -/
theorem after (h : Agrees start graph) (additions : List Addition) :
    Agrees start (graph.after additions) := by
  induction additions using List.reverseRecOn with
  | nil => exact h
  | append_singleton additions last ih =>
      rw [after_concat]
      exact ih.add last

end Agrees

/-- An addition is answered with yes just when it puts in what was not there. -/
theorem isNew_iff (addition : Addition) :
    graph.isNew addition = true ↔ ¬ graph.Has addition ∧ (graph.add addition).Has addition := by
  cases addition with
  | node node =>
      have hadded : node ∈ (graph.addNode node).nodes := mem_nodes_addNode.mpr (Or.inr rfl)
      simp [isNew, isNewNode, contains, Has, add, hadded]
  | edge caller callee =>
      have hadded : (caller, callee) ∈ (graph.addEdge caller callee).edges := by
        rw [edges_addEdge]
        split
        · assumption
        · exact List.mem_append_right _ (List.mem_singleton.mpr rfl)
      simp [isNew, isNewEdge, hasEdge, Has, add, hadded]

/-- An addition that is answered with no changes nothing. -/
theorem add_of_isNew_eq_false {addition : Addition} (hold : graph.isNew addition = false) :
    graph.add addition = graph := by
  cases addition with
  | node node => exact addNode_of_mem (by simpa [isNew, isNewNode, contains] using hold)
  | edge caller callee => exact addEdge_of_mem (by simpa [isNew, isNewEdge, hasEdge] using hold)

/-- What is there keeps its place. -/
theorem prefix_add (graph : Graph) (addition : Addition) :
    graph.nodes <+: (graph.add addition).nodes ∧ graph.edges <+: (graph.add addition).edges := by
  cases addition with
  | node node =>
      refine ⟨prefix_nodes_addNode graph node, ?_⟩
      exact (edges_addNode graph node).symm ▸ List.prefix_refl graph.edges
  | edge caller callee =>
      change _ <+: (graph.addEdge caller callee).nodes ∧ _ <+: (graph.addEdge caller callee).edges
      by_cases hedge : (caller, callee) ∈ graph.edges
      · rw [addEdge_of_mem hedge]
        exact ⟨List.prefix_refl _, List.prefix_refl _⟩
      · rw [nodes_addEdge_of_not_mem hedge, edges_addEdge, if_neg hedge]
        have hcaller := prefix_nodes_addNode graph caller
        have hcallee := prefix_nodes_addNode (graph.addNode caller) callee
        exact ⟨hcaller.trans hcallee, List.prefix_append _ _⟩

theorem prefix_after (graph : Graph) (additions : List Addition) :
    graph.nodes <+: (graph.after additions).nodes ∧
      graph.edges <+: (graph.after additions).edges := by
  induction additions using List.reverseRecOn with
  | nil => exact ⟨List.prefix_refl _, List.prefix_refl _⟩
  | append_singleton additions last ih =>
      rw [after_concat]
      obtain ⟨hnodes, hedges⟩ := prefix_add (graph.after additions) last
      exact ⟨ih.1.trans hnodes, ih.2.trans hedges⟩

end Step

/-- A graph of a start, after any additions.  Its nodes are distinct and begin with the start; its
edges are distinct and lie between nodes.  The index has an entry for each node and for nothing
else, and an edge that is added finds that of its caller there.  Callees and callers of any
reference are read off the edges in their order.  An addition is answered with yes just when it adds
what was not there, and otherwise changes nothing; whatever is added later, nodes and edges keep
their places. -/
theorem parts_agree_after (start : Ref) (additions : List Addition) :
    let graph := (init start).after additions
    (graph.nodes.Nodup ∧ graph.nodes.head? = some start) ∧
    (graph.edges.Nodup ∧ ∀ edge ∈ graph.edges, edge.1 ∈ graph.nodes ∧ edge.2 ∈ graph.nodes) ∧
    (graph.out.keys = graph.nodes ∧ ∀ caller callee,
      (((graph.addNode caller).addNode callee).out.get? caller).isSome = true) ∧
    (∀ ref,
      graph.callees ref = (graph.edges.filter fun edge => edge.1 = ref).map Prod.snd ∧
      graph.callers ref = (graph.edges.filter fun edge => edge.2 = ref).map Prod.fst) ∧
    (∀ addition,
      (graph.isNew addition = true ↔
        ¬ graph.Has addition ∧ (graph.add addition).Has addition) ∧
      (graph.isNew addition = false → graph.add addition = graph)) ∧
    ∀ more, graph.nodes <+: (graph.after more).nodes ∧
      graph.edges <+: (graph.after more).edges := by
  have hagrees := (Agrees.init start).after additions
  refine ⟨⟨hagrees.nodup_nodes, hagrees.head?_nodes⟩, ⟨hagrees.nodup_edges, hagrees.ends_mem⟩,
    ⟨hagrees.keys_out, hagrees.isSome_get?_out⟩, ?_, ?_, prefix_after _⟩
  · intro ref
    exact ⟨hagrees.callees_eq ref, rfl⟩
  · intro addition
    exact ⟨isNew_iff addition, add_of_isNew_eq_false⟩

end CallAtlas.Graph
