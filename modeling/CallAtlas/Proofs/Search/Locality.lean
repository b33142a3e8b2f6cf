import CallAtlas.Proofs.Search.Budget

/-!
What a graph depends on.  A search asks the store about the modules of the nodes that it takes up, and
about no others: there it finds the calls of a node, and there it sees whether a name is defined
beside the caller.  So two stores that agree on the modules of one graph lead to the same graph.

The two searches are bounded by different numbers, since the bound comes from all that is stored.
Rounds beyond the end of a search change nothing, and so the bounds do not matter.
-/

namespace CallAtlas

namespace Search

section Bound

variable (limits : Limits) (targets : Ref → List Ref) (cancelAfter : Option Nat)

theorem run_of_isOver {search : Search} (hover : search.IsOver) (rounds : Nat) :
    run limits targets cancelAfter rounds search = search := by
  rcases hover with hhalt | hfrontier
  · obtain ⟨halt, hhalt⟩ := Option.ne_none_iff_exists'.mp hhalt
    exact run_of_halt hhalt limits targets cancelAfter rounds
  · exact run_of_frontier_eq_nil hfrontier limits targets cancelAfter rounds

/-- Rounds can be taken in two parts. -/
theorem run_add (rounds more : Nat) (search : Search) :
    run limits targets cancelAfter (rounds + more) search =
      run limits targets cancelAfter more (run limits targets cancelAfter rounds search) := by
  induction rounds generalizing search with
  | zero =>
      rw [Nat.zero_add]
      rfl
  | succ rounds ih =>
      rw [Nat.add_right_comm]
      cases hhalt : search.halt with
      | some halt => simp only [run_of_halt hhalt]
      | none =>
          cases hfrontier : search.frontier with
          | nil => simp only [run_of_frontier_eq_nil hfrontier]
          | cons node rest =>
              rw [run_succ hhalt hfrontier, run_succ hhalt hfrontier]
              split
              · have hstopped : (search.stop .cancelled).halt = some .cancelled := rfl
                rw [run_of_halt hstopped]
              · exact ih _

/-- Two runs of one search that are both over have come to the same end. -/
theorem run_eq_of_isOver {search : Search} {rounds more : Nat}
    (hrounds : (run limits targets cancelAfter rounds search).IsOver)
    (hmore : (run limits targets cancelAfter more search).IsOver) :
    run limits targets cancelAfter rounds search = run limits targets cancelAfter more search := by
  rcases Nat.le_total rounds more with hle | hle
  · obtain ⟨extra, rfl⟩ := Nat.exists_eq_add_of_le hle
    rw [run_add, run_of_isOver limits targets cancelAfter hrounds]
  · obtain ⟨extra, rfl⟩ := Nat.exists_eq_add_of_le hle
    rw [run_add, run_of_isOver limits targets cancelAfter hmore]

end Bound

section SameCalls

variable (limits : Limits) {targets : Ref → List Ref} (cancelAfter : Option Nat)

/-- What was taken up stays taken up. -/
theorem expanded_subset_run (rounds : Nat) (search : Search) :
    search.expanded ⊆ (run limits targets cancelAfter rounds search).expanded :=
  run_invariant limits targets cancelAfter
    (P := fun later => search.expanded ⊆ later.expanded)
    (fun _ node _ _ _ h => List.Subset.trans h (List.subset_append_left _ [node]))
    (fun _ _ _ _ _ _ _ h => h) (fun _ _ _ h => h) rounds (List.Subset.refl _)

/-- A run asks for the calls of the nodes that it takes up, and for those only. -/
theorem run_congr_of_expanded {others : Ref → List Ref} (rounds : Nat) {search : Search}
    (hsame : ∀ node ∈ (run limits targets cancelAfter rounds search).expanded,
      targets node = others node) :
    run limits others cancelAfter rounds search = run limits targets cancelAfter rounds search := by
  induction rounds generalizing search with
  | zero => rfl
  | succ rounds ih =>
      cases hhalt : search.halt with
      | some halt => simp only [run_of_halt hhalt]
      | none =>
          cases hfrontier : search.frontier with
          | nil => simp only [run_of_frontier_eq_nil hfrontier]
          | cons node rest =>
              rw [run_succ hhalt hfrontier] at hsame ⊢
              rw [run_succ hhalt hfrontier]
              by_cases hcancelled : search.isCancelled cancelAfter = true
              · rw [if_pos hcancelled, if_pos hcancelled]
              · rw [if_neg hcancelled] at hsame ⊢
                rw [if_neg hcancelled]
                -- The node of this round is among those taken up at the end.
                have hnode : targets node = others node := by
                  apply hsame
                  apply expanded_subset_run limits cancelAfter rounds
                  simp [take]
                rw [← hnode]
                exact ih hsame

end SameCalls

end Search

namespace Resolver

variable (resolver : Resolver) {store other : Store}

/-- The calls of a function, and what they mean, depend on the block of its module alone. -/
theorem targets_congr {ref : Ref} (hblock : store.get? ref.module = other.get? ref.module) :
    resolver.targets store ref = resolver.targets other ref := by
  have houtgoing : resolver.outgoing store ref = resolver.outgoing other ref := by
    simp only [outgoing, clauses, hblock]
  have hdefines : ∀ name, defines store ref.module name = defines other ref.module name := by
    intro name
    simp only [defines, hblock]
  have hresolve : resolver.resolve store ref.module = resolver.resolve other ref.module := by
    funext call
    simp only [resolve, hdefines]
  rw [targets, targets, houtgoing, hresolve]

/-- Stores that agree on the modules of a search's nodes have the same search. -/
theorem search_congr (limits : Limits) (cancelAfter : Option Nat) (start : Ref)
    (hagree : ∀ node ∈ (resolver.search store limits cancelAfter start).graph.nodes,
      store.get? node.module = other.get? node.module) :
    resolver.search other limits cancelAfter start =
      resolver.search store limits cancelAfter start := by
  have hordered := resolver.search_ordered store start limits cancelAfter
  have hsame : Search.run limits (resolver.targets other) cancelAfter
      ((resolver.allTargets store).length + 1) (.init start) =
        resolver.search store limits cancelAfter start := by
    apply Search.run_congr_of_expanded limits cancelAfter
    intro node hnode
    exact resolver.targets_congr (hagree node (hordered.expanded_mem hnode))
  rw [← hsame]
  apply Search.run_eq_of_isOver
  · exact resolver.search_isOver other start limits cancelAfter
  · rw [hsame]
    exact resolver.search_isOver store start limits cancelAfter

/-- A graph depends only on the modules that it shows.  Every store that has the same blocks for
the modules of its nodes gives the same graph, mark of truncation included; in particular it makes no
difference when a module that no node is of is added, replaced or removed. -/
theorem build_depends_on_shown (store : Store) (start : Ref) (maxNodes maxEdges : Option Int) :
    ∃ graph, resolver.build store (.ofCounts maxNodes maxEdges) none start = .ok graph ∧
      (∀ other : Store,
        (∀ node ∈ graph.nodes, store.get? node.module = other.get? node.module) →
          resolver.build other (.ofCounts maxNodes maxEdges) none start = .ok graph) ∧
      ∀ module, (∀ node ∈ graph.nodes, node.module ≠ module) →
        (∀ block, resolver.build (store.put module block) (.ofCounts maxNodes maxEdges) none start =
          .ok graph) ∧
        resolver.build (store.remove module) (.ofCounts maxNodes maxEdges) none start =
          .ok graph := by
  have hbuild := resolver.build_ofCounts store maxNodes maxEdges start
  have hagree : ∀ other : Store,
      (∀ node ∈ (resolver.search store (.ofCounts maxNodes maxEdges) none start).graph.nodes,
        store.get? node.module = other.get? node.module) →
      resolver.build other (.ofCounts maxNodes maxEdges) none start =
        resolver.build store (.ofCounts maxNodes maxEdges) none start := by
    intro other hother
    rw [build, build, resolver.search_congr _ none start hother]
  refine ⟨_, hbuild, fun other hother => (hagree other hother).trans hbuild, ?_⟩
  intro module hmodule
  refine ⟨fun block => (hagree _ ?_).trans hbuild, (hagree _ ?_).trans hbuild⟩
  · intro node hnode
    rw [Store.get?_put, if_neg (Ne.symm (hmodule node hnode))]
  · intro node hnode
    rw [Store.get?_remove, if_neg (Ne.symm (hmodule node hnode))]

end Resolver

end CallAtlas
