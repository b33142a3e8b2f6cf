import CallAtlas.Proofs.Node.Provenance
import CallAtlas.Proofs.Scan.Effect
import CallAtlas.Proofs.Search.Budget

/-!
Which nodes of a graph can be the start of another.  A start has a module and a name that are not
empty and an arity from zero on.  In a store that was filled by rescans, what a call means has these
as well, if the names in the scanned definitions are not empty, with two exceptions: a capture can
have a negative arity, and a call on the atom `Elixir.` goes to a module with an empty name.
-/

namespace CallAtlas

/-- What a rescan is given: the modules that are listed and what a look-up of each finds. -/
structure Offer where
  listed : List Text
  lookup : Text → Except SourceFault (Option Term)

/-- A definition is found by one of some rescans. -/
def Scanned (offers : List Offer) (tree : Term) : Prop :=
  ∃ offer ∈ offers, ∃ module ∈ offer.listed, offer.lookup module = .ok (some tree)

theorem exists_tree_of_scanTree [Depths] {module : Text} {found : Except SourceFault (Option Term)}
    {normal : Normal} (h : scanTree module found = .ok normal) :
    ∃ tree, found = .ok (some tree) ∧ Normal.ofTree tree (some module) = .ok normal := by
  rcases found with fault | _ | tree
  · cases h
  · cases h
  · refine ⟨tree, rfl, ?_⟩
    cases hnormal : Normal.ofTree tree (some module) with
    | error fault =>
        rw [scanTree_of_error hnormal] at h
        cases h
    | ok own =>
        rw [scanTree_of_ok hnormal] at h
        rw [Except.ok.inj h]

namespace Store

/-- The store that some rescans fill, one after the other. -/
def filled [Depths] (offers : List Offer) : Store :=
  offers.foldl (fun store offer => (store.rescan offer.listed offer.lookup).store) .empty

/-- Every block is that of a definition of its module, which is one of some trees. -/
def IsFrom [Depths] (trees : Term → Prop) (store : Store) : Prop :=
  ∀ module block, store.get? module = some block →
    ∃ tree normal, trees tree ∧ Normal.ofTree tree (some module) = .ok normal ∧
      normal.block = block

section IsFrom

variable [Depths] {trees : Term → Prop} {store : Store}

theorem IsFrom.put (h : store.IsFrom trees) {tree : Term} (htree : trees tree) {module : Text}
    {normal : Normal} (hnormal : Normal.ofTree tree (some module) = .ok normal) :
    (store.put module normal.block).IsFrom trees := by
  intro other block hblock
  rw [get?_put] at hblock
  split at hblock
  · rename_i hmodule
    subst hmodule
    exact ⟨tree, normal, htree, hnormal, Option.some.inj hblock⟩
  · exact h other block hblock

/-- Scanning one listed module after the other keeps this, also where a failure ends the scan. -/
theorem IsFrom.run (h : store.IsFrom trees) {lookup : Text → Except SourceFault (Option Term)}
    {listed : List Text}
    (hlookup : ∀ module ∈ listed, ∀ tree, lookup module = .ok (some tree) → trees tree) :
    (Scan.run lookup listed store).store.IsFrom trees := by
  induction listed generalizing store with
  | nil => exact h
  | cons module rest ih =>
      obtain ⟨hfirst, hrest⟩ := List.forall_mem_cons.mp hlookup
      rw [Scan.run]
      split
      · rename_i normal hscan
        obtain ⟨tree, hfound, hnormal⟩ := exists_tree_of_scanTree hscan
        exact ih (h.put (hfirst tree hfound) hnormal) hrest
      · split
        · exact ih h hrest
        · exact h

theorem IsFrom.prune (h : store.IsFrom trees) (listed : List Text) :
    (Scan.prune store listed).IsFrom trees := by
  intro module block hblock
  rw [Scan.get?_prune] at hblock
  split at hblock
  · exact h module block hblock
  · contradiction

theorem IsFrom.rescan (h : store.IsFrom trees) (offer : Offer)
    (hoffer : ∀ module ∈ offer.listed, ∀ tree, offer.lookup module = .ok (some tree) → trees tree) :
    (store.rescan offer.listed offer.lookup).store.IsFrom trees := by
  have hrun := h.run hoffer
  unfold Store.rescan
  simp only
  split
  · exact hrun
  · exact hrun.prune offer.listed

theorem IsFrom.foldl_rescan (h : store.IsFrom trees) {offers : List Offer}
    (hoffers : ∀ tree, Scanned offers tree → trees tree) :
    (offers.foldl (fun store offer => (store.rescan offer.listed offer.lookup).store)
      store).IsFrom trees := by
  induction offers generalizing store with
  | nil => exact h
  | cons offer rest ih =>
      rw [List.foldl_cons]
      apply ih
      · apply h.rescan
        intro module hmodule tree hfound
        exact hoffers tree ⟨offer, List.mem_cons_self, module, hmodule, hfound⟩
      · rintro tree ⟨other, hother, hfound⟩
        exact hoffers tree ⟨other, List.mem_cons_of_mem offer hother, hfound⟩

theorem isFrom_filled (offers : List Offer) : (filled offers).IsFrom (Scanned offers) := by
  apply IsFrom.foldl_rescan
  · intro module block hblock
    cases hblock
  · exact fun _ htree => htree

end IsFrom

end Store

namespace Ref

/-- The triple of the parts of a reference, which is given as a start. -/
def triple (ref : Ref) : Literal :=
  .tuple [.text ref.module, .text ref.function, .int ref.arity]

theorem of_nonEmpty? {value : Literal} {text : Text} (h : nonEmpty? value = some text) :
    text ≠ "" := by
  unfold nonEmpty? at h
  split at h
  · split at h
    · contradiction
    · rename_i hempty
      obtain rfl := Option.some.inj h
      simpa [Text.isEmpty] using hempty
  · contradiction

theorem of_natural? {value : Literal} {arity : Int} (h : natural? value = some arity) :
    0 ≤ arity := by
  unfold natural? at h
  split at h
  · split at h
    · contradiction
    · rename_i hneg
      obtain rfl := Option.some.inj h
      exact Int.not_lt.mp hneg
  · contradiction

/-- What is accepted as a start. -/
theorem of_ofLiteral {value : Literal} {start : Ref} (h : ofLiteral value = .ok start) :
    start.module ≠ "" ∧ start.function ≠ "" ∧ 0 ≤ start.arity := by
  unfold ofLiteral at h
  split at h
  · unfold ofParts at h
    split at h
    · contradiction
    · rename_i hmodule
      split at h
      · contradiction
      · rename_i hfunction
        split at h
        · contradiction
        · rename_i harity
          obtain rfl := Except.ok.inj h
          exact ⟨of_nonEmpty? hmodule, of_nonEmpty? hfunction, of_natural? harity⟩
  · contradiction

theorem ofLiteral_triple_iff {ref : Ref} :
    ofLiteral ref.triple = .ok ref ↔ ref.module ≠ "" ∧ ref.function ≠ "" ∧ 0 ≤ ref.arity := by
  constructor
  · exact of_ofLiteral
  · rintro ⟨hmodule, hfunction, harity⟩
    simp [ofLiteral, triple, ofParts, nonEmpty?, natural?, Text.isEmpty, hmodule, hfunction,
      Int.not_lt.mpr harity]

end Ref

namespace Imports

theorem eq_of_mem_providedBy {module name other : Text} {names : List String}
    (h : (name, other) ∈ providedBy module names) : other = module := by
  obtain ⟨_, _, heq⟩ := List.mem_map.mp h
  exact (congrArg Prod.snd heq).symm

/-- The standard functions have a module with a name. -/
theorem standard_ne_empty {name module : Text} (h : standard.get? name = some module) :
    module ≠ "" := by
  rcases List.mem_append.mp (Table.mem_of_get?_ofList h) with hkernel | hforms
  · rw [eq_of_mem_providedBy hkernel]
    decide
  · rw [eq_of_mem_providedBy hforms]
    decide

end Imports

/-- An arity below zero that a capture in the tree gives to a call; one more if a value is piped
in. -/
def Term.Understates (tree : Term) (arity : Int) : Prop :=
  ∃ captured ∈ tree.capturedArities, captured < 0 ∧ (arity = captured ∨ arity = captured + 1)

/-- A call of a normalized module has a negative arity only from a capture. -/
theorem Normal.understates_of_arity_neg [Depths] {tree : Term} {module : Option Text}
    {normal : Normal} (h : ofTree tree module = .ok normal) {clause : Clause}
    (hclause : clause ∈ normal.block.clauses) {call : Call} (hcall : call ∈ clause.calls)
    (harity : call.arity < 0) : tree.Understates call.arity := by
  obtain ⟨head, _, hcalls⟩ := comesFrom_of_ofTree h
  rcases (hcalls clause hclause call hcall).arity_eq with hnonneg | ⟨captured, hmem, heq⟩
  · exact absurd harity (Int.not_lt.mpr hnonneg)
  · exact ⟨captured, hmem, by omega, heq⟩

namespace Resolver

section Starts

variable {resolver : Resolver} {store : Store} {trees : Term → Prop}

/-- A reference that can be a start, but for what captures and calls on the atom `Elixir.` in some
trees do to it. -/
structure NearStart (trees : Term → Prop) (ref : Ref) : Prop where
  function_ne : ref.function ≠ ""
  module_eq : ref.module = "" → ∃ tree, trees tree ∧ Text.plain "Elixir." ∈ tree.selectedAtoms
  arity_lt : ref.arity < 0 → ∃ tree, trees tree ∧ tree.Understates ref.arity

theorem nearStart_of_ofLiteral {value : Literal} {start : Ref}
    (h : Ref.ofLiteral value = .ok start) : NearStart trees start := by
  obtain ⟨hmodule, hfunction, harity⟩ := Ref.of_ofLiteral h
  exact ⟨hfunction, fun hempty => absurd hempty hmodule,
    fun hneg => absurd hneg (Int.not_lt.mpr harity)⟩

/-- A module with an empty name is named by the call, or is that of the caller. -/
theorem eq_empty_of_resolve (hunknown : resolver.unknownModule ≠ "")
    (himports : resolver.imports = Imports.standard) {module : Text} {call : Call}
    (h : (resolver.resolve store module call).module = "") :
    call.module = some (Text.plain "") ∨ module = "" := by
  unfold resolve at h
  split at h
  · rename_i named hnamed
    left
    rw [hnamed, ← h]
  · split at h
    · exact absurd h hunknown
    · split at h
      · rename_i imported himported
        split at h
        · exact .inr h
        · rw [himports] at himported
          exact absurd h (Imports.standard_ne_empty himported)
      · exact .inr h

theorem NearStart.target [Depths] (hunknown : resolver.unknownModule ≠ "")
    (himports : resolver.imports = Imports.standard) (hstore : store.IsFrom trees)
    (hnamed : ∀ tree, trees tree → tree.IsNamed) {caller target : Ref}
    (hcaller : NearStart trees caller) (htarget : target ∈ resolver.targets store caller) :
    NearStart trees target := by
  obtain ⟨block, clause, call, hblock, hclause, hcall, rfl⟩ :=
    resolver.exists_stored_call store htarget
  obtain ⟨tree, normal, htree, hnormal, rfl⟩ := hstore caller.module block hblock
  obtain ⟨hfunction, harity⟩ := resolver.function_arity_resolve store caller.module call
  obtain ⟨hname, hmodule⟩ := Normal.call_of_named (hnamed tree htree) hnormal hclause hcall
  refine ⟨?_, ?_, ?_⟩
  · rwa [hfunction]
  · intro hempty
    -- a module that is stored with an empty name calls itself, but is reached through an atom
    by_cases hcallerModule : caller.module = ""
    · exact hcaller.module_eq hcallerModule
    · rcases eq_empty_of_resolve hunknown himports hempty with hcallModule | hcallerEmpty
      · exact ⟨tree, htree, hmodule hcallerModule hcallModule⟩
      · exact absurd hcallerEmpty hcallerModule
  · rw [harity]
    intro hneg
    exact ⟨tree, htree, Normal.understates_of_arity_neg hnormal hclause hcall hneg⟩

/-- What holds of the start holds of every node, whatever stopped the search. -/
theorem NearStart.of_mem_nodes [Depths] (hunknown : resolver.unknownModule ≠ "")
    (himports : resolver.imports = Imports.standard) (hstore : store.IsFrom trees)
    (hnamed : ∀ tree, trees tree → tree.IsNamed) {start : Ref} (hstart : NearStart trees start)
    {limits : Limits} {cancelAfter : Option Nat} {graph : Graph}
    (hbuild : resolver.build store limits cancelAfter start = .ok graph) :
    ∀ node ∈ graph.nodes, NearStart trees node := by
  rw [(resolver.nodes_edges_of_build store start hbuild).1]
  apply Search.run_nodes_induction limits (resolver.targets store) cancelAfter hstart
  intro caller target hcaller htarget
  exact hcaller.target hunknown himports hstore hnamed htarget

end Starts

/-- Every node of a graph can be the start of another, unless a capture or an atom in the scanned
definitions says otherwise.  A call has a negative arity only if a capture in its definition has one,
or has one less and a value is piped into it.  In a store that was filled by rescans of definitions
without empty names, the build from a start gives a graph for all budgets; each of its nodes is
accepted as a start unless its module is empty or its arity negative; the former needs a call on the
atom `Elixir.` in some scanned definition, the latter a capture with a negative arity. -/
theorem nodes_start_unless_stray [Depths] (resolver : Resolver) (offers : List Offer)
    (hunknown : resolver.unknownModule ≠ "") (himports : resolver.imports = Imports.standard)
    (hnamed : ∀ tree, Scanned offers tree → tree.IsNamed) :
    (∀ tree module normal, Normal.ofTree tree module = .ok normal →
      ∀ clause ∈ normal.block.clauses, ∀ call ∈ clause.calls, call.arity < 0 →
        tree.Understates call.arity) ∧
    ∀ value start, Ref.ofLiteral value = .ok start → ∀ maxNodes maxEdges, ∃ graph,
      resolver.build (Store.filled offers) (.ofCounts maxNodes maxEdges) none start = .ok graph ∧
      ∀ node ∈ graph.nodes,
        (Ref.ofLiteral node.triple = .ok node ↔ node.module ≠ "" ∧ 0 ≤ node.arity) ∧
        (node.module = "" →
          ∃ tree, Scanned offers tree ∧ Text.plain "Elixir." ∈ tree.selectedAtoms) ∧
        (node.arity < 0 → ∃ tree, Scanned offers tree ∧ tree.Understates node.arity) := by
  constructor
  · intro tree module normal hnormal clause hclause call hcall
    exact Normal.understates_of_arity_neg hnormal hclause hcall
  · intro value start hvalue maxNodes maxEdges
    have hbuild := resolver.build_ofCounts (Store.filled offers) maxNodes maxEdges start
    refine ⟨_, hbuild, ?_⟩
    intro node hnode
    have hnear : NearStart (Scanned offers) node :=
      NearStart.of_mem_nodes hunknown himports (Store.isFrom_filled offers) hnamed
        (nearStart_of_ofLiteral hvalue) hbuild node hnode
    refine ⟨?_, hnear.module_eq, hnear.arity_lt⟩
    rw [Ref.ofLiteral_triple_iff]
    constructor
    · rintro ⟨hmodule, _, harity⟩
      exact ⟨hmodule, harity⟩
    · rintro ⟨hmodule, harity⟩
      exact ⟨hmodule, hnear.function_ne, harity⟩

/-- A definition of `Cart` with a function that captures `total` with the arity -1 and calls `sum` on
the atom `Elixir.`. -/
def strayCart : Term :=
  let capture : Term := .tuple [.text "&", .list [], .list [
    .tuple [.text "/", .list [], .list [.tuple [.text "total", .list [], .null], .int (-1)]]]]
  let sum : Term := .tuple [
    .tuple [.text ".", .list [], .list [.text "Elixir.", .text "sum"]], .list [], .list []]
  let body : Term := .tuple [.text "__block__", .list [], .list [capture, sum]]
  .tuple [.text "defmodule", .list [], .list [
    .tuple [.text "__aliases__", .list [], .list [.text "Cart"]],
    .list [.tuple [.text "do", .tuple [.text "def", .list [], .list [
      .tuple [.text "run", .list [], .list []],
      .list [.tuple [.text "do", body]]]]]]]]

/-- A rescan that finds this definition. -/
def strayOffer : Offer := ⟨["Cart"], fun _ => .ok (some strayCart)⟩

theorem isNamed_of_scanned_stray {tree : Term} (h : Scanned [strayOffer] tree) : tree.IsNamed := by
  obtain ⟨offer, hoffer, module, _, hfound⟩ := h
  obtain rfl := List.mem_singleton.mp hoffer
  obtain rfl : strayCart = tree := Option.some.inj (Except.ok.inj hfound)
  decide +kernel

theorem nodes_start_unless_stray_cart :
    strayCart.IsNamed ∧
      Ref.ofLiteral (.tuple [.text "Cart", .text "run", .int 0]) = .ok ⟨"Cart", "run", 0⟩ ∧
      ∃ graph, build {} (Store.filled [strayOffer]) (.ofCounts (some 3) (some 2)) none
          ⟨"Cart", "run", 0⟩ = .ok graph ∧
        ∀ node ∈ graph.nodes,
          (Ref.ofLiteral node.triple = .ok node ↔ node.module ≠ "" ∧ 0 ≤ node.arity) ∧
          (node.module = "" →
            ∃ tree, Scanned [strayOffer] tree ∧ Text.plain "Elixir." ∈ tree.selectedAtoms) ∧
          (node.arity < 0 →
            ∃ tree, Scanned [strayOffer] tree ∧ tree.Understates node.arity) := by
  have hstart : Ref.ofLiteral (.tuple [.text "Cart", .text "run", .int 0]) =
      .ok ⟨"Cart", "run", 0⟩ := by
    decide
  refine ⟨by decide +kernel, hstart, ?_⟩
  exact (nodes_start_unless_stray {} [strayOffer] (by decide) rfl
    fun _ => isNamed_of_scanned_stray).2 _ _ hstart (some 3) (some 2)

/-- The captured function and the one called on the atom are nodes, but not accepted as starts. -/
theorem stray_nodes_are_refused :
    let start : Ref := ⟨"Cart", "run", 0⟩
    let captured : Ref := ⟨"Cart", "total", -1⟩
    let nameless : Ref := ⟨"", "sum", 0⟩
    strayCart.IsNamed ∧
      (build {} (Store.filled [strayOffer]) {} none start).toOption.map Graph.nodes =
        some [start, captured, nameless] ∧
      Ref.ofLiteral captured.triple = .error (.badArity "-1") ∧
      Ref.ofLiteral nameless.triple = .error (.badModule "''") := by
  refine ⟨?_, ?_, ?_, ?_⟩
  · decide +kernel
  · decide +kernel
  · decide +kernel
  · decide +kernel

end Resolver

end CallAtlas
