import Mathlib.Data.Set.Card
import CallAtlas.Proofs.Search.Reach

/-!
Every search ends.  The loop is stated here without a bound on its rounds: as long as nothing
stopped the search and a node waits, one more round is possible.  Each round takes up another node,
and the nodes are the start and what the calls of stored clauses mean, so there are no more rounds
than these.
-/

namespace CallAtlas

namespace Search

section Loop

variable {limits : Limits} {targets : Ref → List Ref}

/-- Some rounds of the loop, one after the other, and the nodes that they take up. -/
inductive Rounds (limits : Limits) (targets : Ref → List Ref) :
    Search → List Ref → Search → Prop where
  | stay (search : Search) : Rounds limits targets search [] search
  | next {search final : Search} {node : Ref} {rest taken : List Ref}
      (hgoing : search.halt = none) (hfrontier : search.frontier = node :: rest)
      (hrest : Rounds limits targets
        (expand limits targets node { search with frontier := rest }) taken final) :
      Rounds limits targets search (node :: taken) final

/-- So many rounds lead where a run of that many rounds leads. -/
theorem Rounds.eq_run {search final : Search} {taken : List Ref}
    (h : Rounds limits targets search taken final) :
    run limits targets none taken.length search = final := by
  induction h with
  | stay search => rfl
  | next hgoing hfrontier _ ih =>
      rw [List.length_cons, run_succ hgoing hfrontier, if_neg (by simp [isCancelled])]
      exact ih

/-- Rounds add the nodes that they take up to those taken up before. -/
theorem Rounds.expanded_eq {search final : Search} {taken : List Ref}
    (h : Rounds limits targets search taken final) :
    final.expanded = search.expanded ++ taken := by
  induction h with
  | stay search => rw [List.append_nil]
  | next _ _ _ ih =>
      rw [ih, expand, expanded_foldl_follow, List.append_assoc, List.singleton_append]

/-- A run without a signal to stop is made of rounds. -/
theorem exists_rounds_run (limits : Limits) (targets : Ref → List Ref) (rounds : Nat)
    (search : Search) :
    ∃ taken, Rounds limits targets search taken (run limits targets none rounds search) := by
  induction rounds generalizing search with
  | zero => exact ⟨[], .stay search⟩
  | succ rounds ih =>
      cases hhalt : search.halt with
      | some halt =>
          rw [run_of_halt hhalt]
          exact ⟨[], .stay search⟩
      | none =>
          cases hfrontier : search.frontier with
          | nil =>
              rw [run_of_frontier_eq_nil hfrontier]
              exact ⟨[], .stay search⟩
          | cons node rest =>
              rw [run_succ hhalt hfrontier, if_neg (by simp [isCancelled])]
              obtain ⟨taken, htaken⟩ := ih (expand limits targets node
                { search with frontier := rest })
              exact ⟨node :: taken, .next hhalt hfrontier htaken⟩

/-- From a start alone there are no more rounds than nodes the search can have. -/
theorem Rounds.length_le {start : Ref} {final : Search} {taken : List Ref}
    (h : Rounds limits targets (.init start) taken final) (all : List Ref)
    (hall : ∀ caller, ∀ target ∈ targets caller, target ∈ all) :
    taken.length ≤ 1 + all.length := by
  have hordered : Ordered start final := by
    rw [← h.eq_run]
    exact (Ordered.init start).run limits targets none taken.length
  have hnodes : final.graph.nodes.length ≤ all.length + 1 := by
    rw [← h.eq_run]
    exact run_nodes_length_le limits targets none start all hall taken.length
  have hexpanded : final.expanded = taken := h.expanded_eq
  rw [hordered.queue, List.length_append, hexpanded] at hnodes
  omega

end Loop

end Search

namespace Resolver

variable (resolver : Resolver) (store : Store)

/-- What the calls of stored clauses mean, each taken as a call from the module under which its
clause is stored. -/
def storedTargets : Set Ref :=
  {ref | ∃ module block clause call, store.get? module = some block ∧ clause ∈ block.clauses ∧
    call ∈ clause.calls ∧ resolver.resolve store module call = ref}

theorem storedTargets_finite : (resolver.storedTargets store).Finite := by
  refine (List.finite_toSet (resolver.allTargets store)).subset ?_
  rintro ref ⟨module, block, clause, call, hblock, hclause, hcall, rfl⟩
  exact resolver.resolve_mem_allTargets store hblock hclause hcall

theorem mem_storedTargets {caller callee : Ref}
    (hcallee : callee ∈ resolver.targets store caller) :
    callee ∈ resolver.storedTargets store :=
  ⟨caller.module, resolver.exists_stored_call store hcallee⟩

/-- The search of a build ends, whatever the budgets: its loop has at most one round more than there
are distinct references that stored calls mean, and the rounds lead to the search from which the
graph is taken, which is over. -/
theorem search_rounds_le (limits : Limits) (start : Ref) :
    (resolver.storedTargets store).Finite ∧
      (∀ taken search,
        Search.Rounds limits (resolver.targets store) (.init start) taken search →
          taken.length ≤ 1 + (resolver.storedTargets store).ncard) ∧
      ∃ taken,
        Search.Rounds limits (resolver.targets store) (.init start) taken
            (resolver.search store limits none start) ∧
          (resolver.search store limits none start).IsOver := by
  have hfinite := resolver.storedTargets_finite store
  refine ⟨hfinite, ?_, ?_⟩
  · intro taken search hrounds
    rw [Set.ncard_eq_toFinset_card _ hfinite, ← Finset.length_toList]
    refine hrounds.length_le hfinite.toFinset.toList ?_
    intro caller target htarget
    rw [Finset.mem_toList, Set.Finite.mem_toFinset]
    exact resolver.mem_storedTargets store htarget
  · obtain ⟨taken, htaken⟩ := Search.exists_rounds_run limits (resolver.targets store)
      ((resolver.allTargets store).length + 1) (.init start)
    exact ⟨taken, htaken, resolver.search_isOver store start limits none⟩

end Resolver

end CallAtlas
