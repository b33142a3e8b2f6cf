import CallAtlas.Proofs.Search.Reach

/-!
Which function an unqualified call means when its name is one of the standard functions.  A clause
of that name in the calling module shadows the standard function, and it does so for every number of
arguments, also for those with which it cannot be called.  What the call means then has no clause,
and is a leaf of every graph.
-/

namespace CallAtlas.Resolver

/-- A module has a clause of this name, of whatever arity. -/
def HasClause (store : Store) (module name : Text) : Prop :=
  ∃ block, store.get? module = some block ∧ ∃ clause ∈ block.clauses, clause.name = name

/-- A stored clause can be called as a reference says. -/
def IsDefined (resolver : Resolver) (store : Store) (ref : Ref) : Prop :=
  ∃ block, store.get? ref.module = some block ∧
    ∃ clause ∈ block.clauses, clause.name = ref.function ∧ resolver.accepts ref.arity clause = true

/-- A call that says itself that it goes to `module`: it names the module, or its receiver is known
only at run time and `module` stands for all such receivers. -/
def GoesTo (resolver : Resolver) (module : Text) (call : Call) : Prop :=
  call.module = some module ∨
    call.module = none ∧ call.dynamic = true ∧ resolver.unknownModule = module

section

variable {resolver : Resolver} {store : Store}

theorem defines_eq_true_iff {module name : Text} :
    defines store module name = true ↔ HasClause store module name := by
  unfold defines HasClause
  cases hblock : store.get? module with
  | none => simp
  | some block => simp [Block.clausesOf]

theorem isDefined_iff {ref : Ref} :
    resolver.IsDefined store ref ↔ resolver.clauses store ref ≠ [] := by
  unfold IsDefined clauses
  cases hblock : store.get? ref.module with
  | none => simp
  | some block => simp [Block.clausesOf, and_comm]

/-- A reference without a clause calls nothing. -/
theorem not_calls_of_not_isDefined {caller : Ref} (hcaller : ¬ resolver.IsDefined store caller)
    (callee : Ref) : ¬ resolver.Calls store caller callee := by
  rintro ⟨call, hcall, _⟩
  rw [isDefined_iff, not_not] at hcaller
  simp [outgoing, hcaller] at hcall

/-- An unqualified call of a standard name goes to the calling module if that has a clause of the
name, and to the module of the standard function otherwise. -/
theorem resolve_unqualified {call : Call} (hmodule : call.module = none)
    (hdynamic : call.dynamic = false) {imported : Text}
    (himported : resolver.imports.get? call.name = some imported) (module : Text) :
    (HasClause store module call.name →
      resolver.resolve store module call = ⟨module, call.name, call.arity⟩) ∧
    (¬ HasClause store module call.name →
      resolver.resolve store module call = ⟨imported, call.name, call.arity⟩) := by
  rw [← defines_eq_true_iff]
  constructor
  · intro hdefines
    simp [resolve, hmodule, hdynamic, himported, hdefines]
  · intro hdefines
    simp [resolve, hmodule, hdynamic, himported, hdefines]

/-- A call of a standard name that stays in its module says so itself or is shadowed there. -/
theorem goesTo_or_hasClause {module : Text} {call : Call}
    (hlocal : (resolver.resolve store module call).module = module) {imported : Text}
    (himported : resolver.imports.get? call.name = some imported) (hother : imported ≠ module) :
    resolver.GoesTo module call ∨ HasClause store module call.name := by
  cases hmodule : call.module with
  | some named =>
      have hnamed : named = module := by simpa [resolve, hmodule] using hlocal
      exact Or.inl (Or.inl (by rw [hmodule, hnamed]))
  | none =>
      cases hdynamic : call.dynamic with
      | true =>
          have hunknown : resolver.unknownModule = module := by
            simpa [resolve, hmodule, hdynamic] using hlocal
          exact Or.inl (Or.inr ⟨hmodule, hdynamic, hunknown⟩)
      | false =>
          right
          by_contra hclause
          rw [(resolve_unqualified hmodule hdynamic himported module).2 hclause] at hlocal
          exact hother hlocal

end

/-- Clauses shadow standard functions by their name alone.  An unqualified call of a standard name
stays in the calling module just when that has a clause of the name, whatever arity the clause has,
or is itself the module of the standard function; otherwise it goes to the latter.  So wherever a
graph leads from a function to a standard name in the same module, that module has a clause of the
name, unless the call says itself where it goes; and where no clause accepts the number of arguments,
the graph leads no further. -/
theorem shadowing_goes_by_name (resolver : Resolver) (store : Store) :
    (∀ module call imported, call.module = none → call.dynamic = false →
      resolver.imports.get? call.name = some imported →
      (resolver.resolve store module call = ⟨module, call.name, call.arity⟩ ↔
        HasClause store module call.name ∨ imported = module) ∧
      (¬ HasClause store module call.name →
        resolver.resolve store module call = ⟨imported, call.name, call.arity⟩)) ∧
    ∀ limits cancelAfter start graph,
      resolver.build store limits cancelAfter start = .ok graph →
      ∀ caller callee imported, (caller, callee) ∈ graph.edges → callee.module = caller.module →
        resolver.imports.get? callee.function = some imported → imported ≠ caller.module →
        (HasClause store caller.module callee.function ∨
          ∃ call ∈ resolver.outgoing store caller, call.name = callee.function ∧
            call.arity = callee.arity ∧ resolver.GoesTo caller.module call) ∧
        (¬ resolver.IsDefined store callee → ∀ other, (callee, other) ∉ graph.edges) := by
  constructor
  · intro module call imported hmodule hdynamic himported
    obtain ⟨hshadowed, hfree⟩ := resolve_unqualified hmodule hdynamic himported module
    refine ⟨⟨?_, ?_⟩, hfree⟩
    · intro hlocal
      by_cases hclause : HasClause store module call.name
      · exact Or.inl hclause
      · rw [hfree hclause] at hlocal
        exact Or.inr (congrArg Ref.module hlocal)
    · intro hlocal
      by_cases hclause : HasClause store module call.name
      · exact hshadowed hclause
      · rcases hlocal with hclause' | rfl
        · exact absurd hclause' hclause
        · exact hfree hclause
  · -- an edge is a call of its caller, so what holds of calls holds of edges
    intro limits cancelAfter start graph hbuild caller callee imported hedge hlocal himported hother
    rw [(resolver.nodes_edges_of_build store start hbuild).2] at hedge ⊢
    constructor
    · obtain ⟨call, hcall, rfl⟩ := resolver.calls_of_mem_search_edges store start hedge
      obtain ⟨hname, harity⟩ := resolver.function_arity_resolve store caller.module call
      rw [hname] at himported ⊢
      rw [harity]
      rcases goesTo_or_hasClause hlocal himported hother with hgoes | hclause
      · exact Or.inr ⟨call, hcall, rfl, rfl, hgoes⟩
      · exact Or.inl hclause
    · intro hundefined other hedge'
      exact not_calls_of_not_isDefined hundefined other
        (resolver.calls_of_mem_search_edges store start hedge')

/-- `Cart` has a function `length` of two arguments.  A call of `length` with one argument is not one
of the standard function, but stays in `Cart`, where nothing accepts it. -/
theorem shadowing_at_other_arity :
    let call : Call := { name := "length", arity := 1 }
    let size : Clause :=
      { name := "size", calls := [call], arity := some 1, params := some ["items"] }
    let own : Clause := { name := "length", arity := some 2, params := some ["items", "unit"] }
    let store := Store.empty.put "Cart" { name := "Cart", clauses := [size, own] }
    let resolver : Resolver := {}
    let start : Ref := ⟨"Cart", "size", 1⟩
    resolver.imports.get? "length" = some (Text.plain "Kernel") ∧
      ¬ resolver.IsDefined store ⟨"Cart", "length", 1⟩ ∧
      resolver.resolve store "Cart" call = ⟨"Cart", "length", 1⟩ ∧
      (resolver.build store {} none start).toOption.map Graph.edges =
        some [(start, ⟨"Cart", "length", 1⟩)] := by
  refine ⟨?_, ?_, ?_, ?_⟩
  · decide
  · rw [isDefined_iff, not_not]
    decide
  · decide
  · decide

end CallAtlas.Resolver
