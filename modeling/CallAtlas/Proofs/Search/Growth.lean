import CallAtlas.Proofs.Search.Locality

/-!
How graphs grow.  A graph without budgets is what its start reaches, so that it grows with the
relation of calls.  More stored modules only add calls: the calls of a function, and whether its
module has a function of the called name, are read from the block of the caller, which stays what it
was.
-/

namespace CallAtlas

/-- A store lies within another if each of its modules has the same block there. -/
def Store.Within (store larger : Store) : Prop :=
  ∀ module block, store.get? module = some block → larger.get? module = some block

theorem Store.within_put {store larger : Store} (hwithin : store.Within larger) {module : Text}
    (hnew : store.get? module = none) (block : Block) :
    store.Within (larger.put module block) := by
  intro other held hheld
  have hother : module ≠ other := by
    intro heq
    rw [heq, hheld] at hnew
    cases hnew
  rw [get?_put, if_neg hother]
  exact hwithin other held hheld

namespace Resolver

section MoreCalls

variable {resolver other : Resolver} {store larger : Store}

/-- More calls, more nodes. -/
theorem search_nodes_subset
    (hcalls : ∀ caller callee, resolver.Calls store caller callee →
      other.Calls larger caller callee) (start : Ref) :
    (resolver.search store {} none start).graph.nodes ⊆
      (other.search larger {} none start).graph.nodes := by
  intro ref href
  rw [mem_search_nodes] at href ⊢
  exact Relation.ReflTransGen.mono hcalls _ _ href

/-- More calls, more edges. -/
theorem search_edges_subset
    (hcalls : ∀ caller callee, resolver.Calls store caller callee →
      other.Calls larger caller callee) (start : Ref) :
    (resolver.search store {} none start).graph.edges ⊆
      (other.search larger {} none start).graph.edges := by
  rintro ⟨caller, callee⟩ hedge
  rw [mem_search_edges] at hedge ⊢
  exact ⟨search_nodes_subset hcalls start hedge.1, hcalls caller callee hedge.2⟩

end MoreCalls

variable (resolver : Resolver) {store larger : Store}

/-- A function of a stored module calls the same functions when more modules are stored. -/
theorem calls_iff_of_within (hwithin : store.Within larger) {caller callee : Ref}
    (hstored : store.get? caller.module ≠ none) :
    resolver.Calls store caller callee ↔ resolver.Calls larger caller callee := by
  obtain ⟨block, hblock⟩ := Option.ne_none_iff_exists'.mp hstored
  have hsame : store.get? caller.module = larger.get? caller.module := by
    rw [hblock, hwithin caller.module block hblock]
  rw [← mem_targets, ← mem_targets, resolver.targets_congr hsame]

theorem calls_of_within (hwithin : store.Within larger) (caller callee : Ref)
    (hcall : resolver.Calls store caller callee) : resolver.Calls larger caller callee := by
  apply (resolver.calls_iff_of_within hwithin _).mp hcall
  obtain ⟨block, _, _, hblock, _⟩ :=
    resolver.exists_stored_call store ((resolver.mem_targets store).mpr hcall)
  rw [hblock]
  exact Option.some_ne_none block

/-- Storing more modules only makes graphs grow.  All nodes and edges of the smaller graph are
there, and its functions of modules stored before call nothing that they did not call. -/
theorem build_grows_with_store (hwithin : store.Within larger) (start : Ref) :
    ∃ graph grown, resolver.build store {} none start = .ok graph ∧
      resolver.build larger {} none start = .ok grown ∧
      graph.nodes ⊆ grown.nodes ∧ graph.edges ⊆ grown.edges ∧
      ∀ caller callee, caller ∈ graph.nodes → store.get? caller.module ≠ none →
        (caller, callee) ∈ grown.edges → (caller, callee) ∈ graph.edges := by
  refine ⟨_, _, resolver.build_unlimited store start, resolver.build_unlimited larger start, ?_⟩
  have hcalls := resolver.calls_of_within hwithin
  refine ⟨search_nodes_subset hcalls start, search_edges_subset hcalls start, ?_⟩
  intro caller callee hcaller hstored hedge
  rw [mem_search_edges] at hedge ⊢
  exact ⟨hcaller, (resolver.calls_iff_of_within hwithin hstored).mpr hedge.2⟩

/-- A cart whose module calls prices and a standard function; then the prices are stored, and a
module with the standard function as well. -/
theorem build_grows_with_prices :
    let sum : Call := { name := "sum", arity := 1, module := some "Prices" }
    let length : Call := { name := "length", arity := 1 }
    let cart : Block :=
      { name := "Cart", clauses := [{ name := "total", arity := some 1, calls := [sum, length] }] }
    let prices : Block :=
      { name := "Prices", clauses := [{ name := "sum", arity := some 1, calls := [length] }] }
    let kernel : Block :=
      { name := "Kernel", clauses := [{ name := "length", arity := some 1, calls := [sum] }] }
    let store := Store.empty.put "Cart" cart
    let larger := (store.put "Prices" prices).put "Kernel" kernel
    let start : Ref := ⟨"Cart", "total", 1⟩
    store.Within larger ∧
      ∃ graph grown, Resolver.build {} store {} none start = .ok graph ∧
        Resolver.build {} larger {} none start = .ok grown ∧
        graph.nodes ⊆ grown.nodes ∧ graph.edges ⊆ grown.edges ∧
        ∀ caller callee, caller ∈ graph.nodes → store.get? caller.module ≠ none →
          (caller, callee) ∈ grown.edges → (caller, callee) ∈ graph.edges := by
  intro sum length cart prices kernel store larger start
  have hwithin : store.Within larger := by
    apply Store.within_put
    · apply Store.within_put
      · exact fun _ _ h => h
      · rfl
    · rfl
  exact ⟨hwithin, build_grows_with_store {} hwithin start⟩

end Resolver

end CallAtlas
