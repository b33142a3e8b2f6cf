import CallAtlas.Proofs.Module.Listed
import CallAtlas.Proofs.Search.Growth

/-!
The arity policy.  It decides about clauses of which neither arity nor parameters are known, and
about no others.  The strict policy takes fewer clauses, so that its graphs lie within those of the
permissive one.  Normalization counts the parameters of every clause, and over its blocks the two
policies are the same.
-/

namespace CallAtlas

namespace Normal

theorem length_paramNames (index : Nat) (params : List Term) :
    (paramNames index params).length = params.length := by
  induction params generalizing index with
  | nil => rfl
  | cons param rest ih => rw [paramNames, List.length_cons, List.length_cons, ih]

end Normal

/-- A clause of known arity: that of its parameters, of which no more have a default than there
are. -/
structure Clause.IsCounted (clause : Clause) (names : List Text) : Prop where
  params_eq : clause.params = some names
  arity_eq : clause.arity = some (names.length : Int)
  defaults_nonneg : 0 ≤ clause.defaults
  defaults_le : clause.defaults ≤ names.length

namespace Normal

theorem isCounted_clause? {scope : Scope} {statement : Term} {clause : Clause}
    (h : clause? scope statement = some clause) : ∃ names, clause.IsCounted names := by
  obtain ⟨definition, _, rfl⟩ := Option.map_eq_some_iff.mp h
  refine ⟨_, rfl, ?_, Int.natCast_nonneg _, ?_⟩
  · rw [Definition.clause, length_paramNames]
  · rw [Definition.clause, length_paramNames, Int.ofNat_le]
    exact List.countP_le_length

/-- A clause of a normalized module is what one of its statements defines. -/
theorem exists_statement_of_ofTree [Depths] {tree : Term} {module : Option Text} {normal : Normal}
    (h : ofTree tree module = .ok normal) {clause : Clause}
    (hclause : clause ∈ normal.block.clauses) :
    ∃ scope statement, clause? scope statement = some clause := by
  obtain ⟨head, _, hclauses⟩ := exists_header_of_ofTree h
  rw [hclauses] at hclause
  obtain ⟨statement, _, hstatement⟩ := List.mem_filterMap.mp hclause
  exact ⟨head.scope, statement, hstatement⟩

/-- Normalization counts the parameters of every clause. -/
theorem isCounted_ofTree [Depths] {tree : Term} {module : Option Text} {normal : Normal}
    (h : ofTree tree module = .ok normal) {clause : Clause}
    (hclause : clause ∈ normal.block.clauses) : ∃ names, clause.IsCounted names := by
  obtain ⟨scope, statement, hstatement⟩ := exists_statement_of_ofTree h hclause
  exact isCounted_clause? hstatement

end Normal

/-- Every block of the store is that of some normalized definition. -/
def Store.IsNormalized [Depths] (store : Store) : Prop :=
  ∀ module block, store.get? module = some block →
    ∃ tree name normal, Normal.ofTree tree name = .ok normal ∧ normal.block = block

namespace Resolver

/-- The resolver with another policy. -/
def under (resolver : Resolver) (policy : ArityPolicy) : Resolver := { resolver with policy }

variable (resolver : Resolver)

@[simp] theorem resolve_under (policy : ArityPolicy) (store : Store) (module : Text) (call : Call) :
    (resolver.under policy).resolve store module call = resolver.resolve store module call := rfl

@[simp] theorem allTargets_under (policy : ArityPolicy) (store : Store) :
    (resolver.under policy).allTargets store = resolver.allTargets store := rfl

/-- What the strict policy takes, the permissive one takes as well. -/
theorem accepts_permissive_of_strict {arity : Int} {clause : Clause}
    (h : (resolver.under .strict).accepts arity clause = true) :
    (resolver.under .permissive).accepts arity clause = true := by
  unfold accepts at h ⊢
  split at h
  · exact h
  · exact h
  · cases h

theorem calls_permissive_of_strict {store : Store} (caller callee : Ref)
    (h : (resolver.under .strict).Calls store caller callee) :
    (resolver.under .permissive).Calls store caller callee := by
  obtain ⟨call, hcall, hcallee⟩ := h
  refine ⟨call, ?_, hcallee⟩
  obtain ⟨clause, hclause, hmade⟩ := List.mem_flatMap.mp hcall
  refine List.mem_flatMap.mpr ⟨clause, ?_, hmade⟩
  unfold clauses at hclause ⊢
  split at hclause
  · rw [List.mem_filter] at hclause ⊢
    exact ⟨hclause.1, resolver.accepts_permissive_of_strict hclause.2⟩
  · exact hclause

/-- A counted clause can be called with its parameters, or with as many less as have a default. -/
theorem accepts_iff_of_isCounted {clause : Clause} {names : List Text}
    (h : clause.IsCounted names) (arity : Int) :
    resolver.accepts arity clause = true ↔
      (names.length : Int) - clause.defaults ≤ arity ∧ arity ≤ names.length := by
  simp only [accepts, h.arity_eq, decide_eq_true_iff]

/-- Over normalized blocks the policy makes no difference to what a function calls. -/
theorem targets_under_of_isNormalized [Depths] {store : Store} (h : store.IsNormalized)
    (policy other : ArityPolicy) :
    (resolver.under policy).targets store = (resolver.under other).targets store := by
  funext ref
  have hclauses : (resolver.under policy).clauses store ref =
      (resolver.under other).clauses store ref := by
    unfold clauses
    split
    · rename_i block hblock
      apply List.filter_congr
      intro clause hclause
      obtain ⟨tree, name, normal, hnormal, rfl⟩ := h ref.module block hblock
      obtain ⟨names, hcounted⟩ :=
        Normal.isCounted_ofTree hnormal (List.mem_filter.mp hclause).1
      rw [Bool.eq_iff_iff, accepts_iff_of_isCounted _ hcounted,
        accepts_iff_of_isCounted _ hcounted]
    · rfl
  simp only [targets, outgoing, hclauses]
  rfl

theorem build_under_of_isNormalized [Depths] {store : Store} (h : store.IsNormalized)
    (policy other : ArityPolicy) (limits : Limits) (cancelAfter : Option Nat) (start : Ref) :
    (resolver.under policy).build store limits cancelAfter start =
      (resolver.under other).build store limits cancelAfter start := by
  simp only [build, search, allTargets_under,
    resolver.targets_under_of_isNormalized h policy other]

/-- The arity policy matters for hand-made blocks only.  A strict graph lies within the permissive
one; the clauses of a normalized definition have the arity of their parameters and are called with
the same numbers of arguments under both policies; and over a store of normalized blocks both
policies give the same graph, whatever the budgets. -/
theorem policy_matters_by_hand_only [Depths] :
    (∀ store start, ∃ strict permissive,
      (resolver.under .strict).build store {} none start = .ok strict ∧
      (resolver.under .permissive).build store {} none start = .ok permissive ∧
      strict.nodes ⊆ permissive.nodes ∧ strict.edges ⊆ permissive.edges) ∧
    (∀ tree module normal, Normal.ofTree tree module = .ok normal →
      ∀ clause ∈ normal.block.clauses, ∃ names, clause.params = some names ∧
        clause.arity = some (names.length : Int) ∧
        0 ≤ clause.defaults ∧ clause.defaults ≤ names.length ∧
        ∀ policy arity, (resolver.under policy).accepts arity clause = true ↔
          (names.length : Int) - clause.defaults ≤ arity ∧ arity ≤ names.length) ∧
    ∀ store : Store, store.IsNormalized → ∀ start,
      (∀ limits cancelAfter,
        (resolver.under .strict).build store limits cancelAfter start =
          (resolver.under .permissive).build store limits cancelAfter start) ∧
      ∀ maxNodes maxEdges, ∃ graph,
        (resolver.under .strict).build store (.ofCounts maxNodes maxEdges) none start =
          .ok graph ∧
        (resolver.under .permissive).build store (.ofCounts maxNodes maxEdges) none start =
          .ok graph := by
  refine ⟨?_, ?_, ?_⟩
  · intro store start
    exact ⟨_, _, build_unlimited _ store start, build_unlimited _ store start,
      search_nodes_subset resolver.calls_permissive_of_strict start,
      search_edges_subset resolver.calls_permissive_of_strict start⟩
  · intro tree module normal hnormal clause hclause
    obtain ⟨names, hcounted⟩ := Normal.isCounted_ofTree hnormal hclause
    exact ⟨names, hcounted.params_eq, hcounted.arity_eq, hcounted.defaults_nonneg,
      hcounted.defaults_le, fun policy arity => accepts_iff_of_isCounted _ hcounted arity⟩
  · intro store hstore start
    have hsame := resolver.build_under_of_isNormalized hstore .strict .permissive
    refine ⟨fun limits cancelAfter => hsame limits cancelAfter start, ?_⟩
    intro maxNodes maxEdges
    have hgraph := (resolver.under .permissive).build_ofCounts store maxNodes maxEdges start
    exact ⟨_, (hsame _ none start).trans hgraph, hgraph⟩

/-- A clause made by hand, of which nothing is known but its calls. -/
example :
    let call : Call := { name := "sum", arity := 1, module := some "Prices" }
    let cart : Block := { name := "Cart", clauses := [{ name := "total", calls := [call] }] }
    let store := Store.empty.put "Cart" cart
    let start : Ref := ⟨"Cart", "total", 1⟩
    ((under {} .strict).build store {} none start).toOption.map Graph.nodes = some [start] ∧
      ((under {} .permissive).build store {} none start).toOption.map Graph.nodes =
        some [start, ⟨"Prices", "sum", 1⟩] := by
  decide

end Resolver

end CallAtlas
