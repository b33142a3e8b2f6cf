import Mathlib.Data.List.Forall2
import CallAtlas.Graph.Search
import CallAtlas.Proofs.Reformat.Block
import CallAtlas.Proofs.Scan.Effect

/-!
Reformatting never changes a call graph.  Two memories whose trees differ in metadata only are
scanned with the same failures, into stores that differ in positions and attribute values only; and
a search reads neither.
-/

namespace CallAtlas

namespace Table

variable {κ α β : Type}

/-- A table with the same keys and other values. -/
def mapValues (f : α → β) (table : Table κ α) : Table κ β where
  entries := table.entries.map fun entry => (entry.1, f entry.2)
  nodup := by simpa [Function.comp_def] using table.nodup

theorem keys_mapValues (f : α → β) (table : Table κ α) : (table.mapValues f).keys = table.keys := by
  simp [keys, mapValues, Function.comp_def]

variable [DecidableEq κ]

theorem find_map (f : α → β) (key : κ) (entries : List (κ × α)) :
    find key (entries.map fun entry => (entry.1, f entry.2)) = (find key entries).map f := by
  induction entries with
  | nil => rfl
  | cons entry rest ih =>
      rw [List.map_cons, find, find, ih]
      split <;> rfl

theorem put_map (f : α → β) (key : κ) (value : α) (entries : List (κ × α)) :
    put key (f value) (entries.map fun entry => (entry.1, f entry.2)) =
      (put key value entries).map fun entry => (entry.1, f entry.2) := by
  induction entries with
  | nil => rfl
  | cons entry rest ih =>
      rw [List.map_cons, put, put, ih]
      split <;> rfl

theorem mapValues_insert (f : α → β) (table : Table κ α) (key : κ) (value : α) :
    (table.insert key value).mapValues f = (table.mapValues f).insert key (f value) :=
  Table.ext (put_map f key value table.entries).symm

theorem mapValues_erase (f : α → β) (table : Table κ α) (key : κ) :
    (table.erase key).mapValues f = (table.mapValues f).erase key := by
  apply Table.ext
  simp [mapValues, erase, filterKeys, List.filter_map, Function.comp_def]

end Table

namespace Store

/-- A store without positions and attribute values. -/
def bare (store : Store) : Store := ⟨store.blocks.mapValues Block.bare⟩

theorem get?_bare (store : Store) (module : Text) :
    store.bare.get? module = (store.get? module).map Block.bare :=
  Table.find_map Block.bare module store.blocks.entries

theorem bare_put (store : Store) (module : Text) (block : Block) :
    (store.put module block).bare = store.bare.put module block.bare := by
  rw [put, bare, Table.mapValues_insert]
  rfl

theorem bare_remove (store : Store) (module : Text) :
    (store.remove module).bare = store.bare.remove module := by
  rw [remove, bare, Table.mapValues_erase]
  rfl

theorem names_bare (store : Store) : store.bare.names = store.names := by
  rw [names, bare, Table.keys_mapValues, names]

theorem bare_foldl_remove (store : Store) (modules : List Text) :
    (modules.foldl remove store).bare = modules.foldl remove store.bare := by
  induction modules generalizing store with
  | nil => rfl
  | cons module rest ih => rw [List.foldl_cons, ih, bare_remove, List.foldl_cons]

end Store

namespace Scan

theorem bare_prune (store : Store) (listed : List Text) :
    (prune store listed).bare = prune store.bare listed := by
  rw [prune, Store.bare_foldl_remove, prune, unlisted, unlisted, Store.names_bare]

/-- The listed modules that failed, in order. -/
def failed (scan : Scan) : List Text :=
  scan.results.filterMap fun (module, result) =>
    match result with
    | .error _ => some module
    | .ok _ => none

variable {lookup other : Text → Except SourceFault (Option Term)}

/-- Two scans of one listing that find the same blocks, up to positions and attribute values, fail
for the same modules and leave stores that are the same in this sense. -/
theorem run_congr [Depths] {listed : List Text} (hgoes : GoesOn lookup listed)
    (hother : GoesOn other listed) (hblocks : ∀ module ∈ listed,
      (block? lookup module).map Block.bare = (block? other module).map Block.bare)
    {first second : Store} (hstore : first.bare = second.bare) :
    (run lookup listed first).failed = (run other listed second).failed ∧
      (run lookup listed first).store.bare = (run other listed second).store.bare := by
  induction listed generalizing first second with
  | nil => exact ⟨rfl, hstore⟩
  | cons module rest ih =>
      obtain ⟨hmodule, hrest⟩ := goesOn_cons.mp hgoes
      obtain ⟨hmodule', hrest'⟩ := goesOn_cons.mp hother
      obtain ⟨hblock, hblocks⟩ := List.forall_mem_cons.mp hblocks
      rw [block?, block?] at hblock
      cases hfirst : scanTree module (lookup module) with
      | ok normal =>
          cases hsecond : scanTree module (other module) with
          | ok normal' =>
              simp only [hfirst, hsecond, Except.toOption, Option.map_some, Option.some.injEq]
                at hblock
              have hput : (first.put module normal.block).bare =
                  (second.put module normal'.block).bare := by
                rw [Store.bare_put, Store.bare_put, hstore, hblock]
              rw [run_of_ok hfirst, run_of_ok hsecond]
              exact ih hrest hrest' hblocks hput
          -- one scan cannot have a block for a module for which the other fails
          | error cause => simp [hfirst, hsecond, Except.toOption] at hblock
      | error cause =>
          cases hsecond : scanTree module (other module) with
          | ok normal => simp [hfirst, hsecond, Except.toOption] at hblock
          | error cause' =>
              obtain ⟨hfailed, hstores⟩ := ih hrest hrest' hblocks hstore
              rw [run_of_error hfirst (hmodule cause hfirst),
                run_of_error hsecond (hmodule' cause' hsecond)]
              exact ⟨congrArg (module :: ·) hfailed, hstores⟩

end Scan

theorem Block.clausesOf_bare (block : Block) (name : Text) :
    block.bare.clausesOf name = (block.clausesOf name).map Clause.bare := by
  simp only [clausesOf, bare, List.filter_map]
  rfl

namespace Resolver

variable (resolver : Resolver) (store : Store)

theorem clauses_bare (ref : Ref) :
    resolver.clauses store.bare ref = (resolver.clauses store ref).map Clause.bare := by
  rw [clauses, Store.get?_bare, clauses]
  cases store.get? ref.module with
  | none => rfl
  | some block =>
      change (block.bare.clausesOf ref.function).filter (resolver.accepts ref.arity) = _
      rw [Block.clausesOf_bare, List.filter_map]
      rfl

theorem outgoing_bare (ref : Ref) :
    resolver.outgoing store.bare ref = (resolver.outgoing store ref).map Call.bare := by
  rw [outgoing, clauses_bare, outgoing, List.flatMap_map, List.map_flatMap]
  rfl

theorem defines_bare (module name : Text) :
    defines store.bare module name = defines store module name := by
  rw [defines, Store.get?_bare, defines]
  cases store.get? module with
  | none => rfl
  | some block => simp [Block.clausesOf_bare]

theorem resolve_bare (module : Text) (call : Call) :
    resolver.resolve store.bare module call.bare = resolver.resolve store module call := by
  simp only [resolve, Call.bare, defines_bare]

theorem targets_bare : resolver.targets store.bare = resolver.targets store := by
  funext ref
  rw [targets, outgoing_bare, targets, List.map_map]
  congr 1
  funext call
  exact resolver.resolve_bare store ref.module call

theorem length_allTargets_bare :
    (resolver.allTargets store.bare).length = (resolver.allTargets store).length := by
  simp [allTargets, Store.bare, Table.mapValues, Block.bare, Clause.bare, List.flatMap_map,
    List.length_flatMap]

/-- A search reads neither positions nor attribute values. -/
theorem build_bare (limits : Limits) (cancelAfter : Option Nat) (start : Ref) :
    resolver.build store.bare limits cancelAfter start =
      resolver.build store limits cancelAfter start := by
  rw [build, search, targets_bare, length_allTargets_bare, build, search]

end Resolver

namespace Memory

/-- Entries of one module, with trees that are the same up to metadata. -/
def AlikeEntry (entry other : Text × Term) : Prop := entry.1 = other.1 ∧ entry.2.Alike other.2

/-- Memories with the same modules in the same order, whose trees are the same up to metadata. -/
def Alike (memory other : Memory) : Prop :=
  List.Forall₂ AlikeEntry memory.trees.entries other.trees.entries

/-- The scan of a memory into an empty store. -/
def scan [Depths] (memory : Memory) : Scan := Scan.run memory.lookup memory.list .empty

/-- The rescan of a memory into an empty store. -/
def rescan [Depths] (memory : Memory) : Rescan := Store.empty.rescan memory.list memory.lookup

variable {memory other : Memory}

theorem Alike.list_eq (h : memory.Alike other) : memory.list = other.list := by
  have hkeys : List.Forall₂ Eq (memory.trees.entries.map Prod.fst)
      (other.trees.entries.map Prod.fst) := by
    rw [List.forall₂_map_left_iff, List.forall₂_map_right_iff]
    exact h.imp fun _ _ hentry => hentry.1
  exact List.forall₂_eq_eq_eq ▸ hkeys

theorem find_bare_of_alike {entries others : List (Text × Term)}
    (h : List.Forall₂ AlikeEntry entries others) (module : Text) :
    (Table.find module entries).map Term.bare = (Table.find module others).map Term.bare := by
  induction h with
  | nil => rfl
  | cons hentry _ ih =>
      rw [Table.find, Table.find, hentry.1]
      split
      · exact congrArg some hentry.2.bare_eq
      · exact ih

theorem Alike.resolve_bare (h : memory.Alike other) (module : Text) :
    (memory.resolve module).map Term.bare = (other.resolve module).map Term.bare := by
  have hresolve (memory : Memory) : (memory.resolve module).map Term.bare =
      ((memory.trees.get? module).map Term.bare).filter fun tree => !tree.isNull := by
    rw [resolve]
    cases memory.trees.get? module with
    | none => rfl
    | some tree => cases hnull : tree.isNull <;> simp [Option.filter, hnull]
  rw [hresolve, hresolve, Table.get?, Table.get?, find_bare_of_alike h]

/-- Alike trees give the same block, up to positions and attribute values, or none. -/
theorem Alike.block?_bare [Depths] (h : memory.Alike other) (module : Text) :
    (memory.block? module).map Block.bare = (other.block? module).map Block.bare := by
  have hbare := h.resolve_bare module
  rw [block?, block?]
  cases hfirst : memory.resolve module with
  | none =>
      cases hsecond : other.resolve module with
      | none => rfl
      | some tree => simp [hfirst, hsecond] at hbare
  | some tree =>
      cases hsecond : other.resolve module with
      | none => simp [hfirst, hsecond] at hbare
      | some tree' =>
          rw [hfirst, hsecond, Option.map_some, Option.map_some, Option.some.injEq] at hbare
          rw [Option.bind_some, Option.bind_some, Normal.block_ofTree, Normal.block_ofTree]
          exact Normal.ofHeader?_congr hbare (some module)

theorem Alike.run_congr [Depths] (h : memory.Alike other) :
    memory.scan.failed = other.scan.failed ∧ memory.scan.store.bare = other.scan.store.bare := by
  rw [scan, scan, h.list_eq]
  apply Scan.run_congr (memory.goesOn_lookup _) (other.goesOn_lookup _)
  · intro module _
    rw [block?_lookup, block?_lookup]
    exact h.block?_bare module
  · rfl

theorem rescan_store [Depths] (memory : Memory) :
    memory.rescan.store = Scan.prune memory.scan.store memory.list :=
  Store.rescan_store (memory.goesOn_lookup _) .empty

/-- Memories whose trees differ in metadata only: rescans fail for the same modules and leave stores
that differ in positions and attribute values only, and every search gives the same graph. -/
theorem rescan_reformat [Depths] (h : memory.Alike other) :
    memory.scan.failed = other.scan.failed ∧
      memory.rescan.store.bare = other.rescan.store.bare ∧
      ∀ (resolver : Resolver) (limits : Limits) (cancelAfter : Option Nat) (start : Ref),
        resolver.build memory.rescan.store limits cancelAfter start =
          resolver.build other.rescan.store limits cancelAfter start := by
  obtain ⟨hfailed, hscan⟩ := h.run_congr
  have hstore : memory.rescan.store.bare = other.rescan.store.bare := by
    rw [rescan_store, rescan_store, Scan.bare_prune, Scan.bare_prune, hscan, h.list_eq]
  refine ⟨hfailed, hstore, ?_⟩
  intro resolver limits cancelAfter start
  rw [← resolver.build_bare memory.rescan.store, hstore, resolver.build_bare]

/-- A module whose one function reads a field of its parameter; all nodes have the same metadata. -/
def fieldAccess (info : List Term) : Term :=
  let cart : Term := .tuple [.text "cart", .list info, .null]
  let access : Term :=
    .tuple [.tuple [.text ".", .list info, .list [cart, .text "sum"]], .list info, .list []]
  .tuple [.text "defmodule", .list info, .list [
    .tuple [.text "__aliases__", .list info, .list [.text "Shop"]],
    .list [.tuple [.text "do", .tuple [.text "def", .list info, .list [
      .tuple [.text "total", .list info, .list [cart]],
      .list [.tuple [.text "do", access]]]]]]]]

theorem fieldAccess_alike {info other : List Term}
    (h : Node.noParens (.list info) = Node.noParens (.list other)) :
    (fieldAccess info).Alike (fieldAccess other) := by
  have hcart : Term.Alike (.tuple [.text "cart", .list info, .null])
      (.tuple [.text "cart", .list other, .null]) := .node (.refl _) h (.refl _)
  have hdot := Term.Alike.node (.refl (.text ".")) h
    (.list (.cons hcart (.cons (.refl (.text "sum")) .nil)))
  have haccess := Term.Alike.node hdot h (.refl (.list []))
  have hhead := Term.Alike.node (.refl (.text "total")) h (.list (.cons hcart .nil))
  have hbody := Term.Alike.tuple (.cons (.refl (.text "do")) (.cons haccess .nil))
  have hdef := Term.Alike.node (.refl (.text "def")) h
    (.list (.cons hhead (.cons (.list (.cons hbody .nil)) .nil)))
  have hname := Term.Alike.node (.refl (.text "__aliases__")) h (.refl (.list [.text "Shop"]))
  have hentry := Term.Alike.tuple (.cons (.refl (.text "do")) (.cons hdef .nil))
  exact .node (.refl _) h (.list (.cons hname (.cons (.list (.cons hentry .nil)) .nil)))

/-- A module that moved from the first line to the ninth. -/
theorem rescan_reformat_moved :
    let mark : Term := .tuple [.text "no_parens", .bool true]
    let first : Memory := .ofList [("Shop", fieldAccess [mark, .tuple [.text "line", .int 1]])]
    let second : Memory := .ofList [("Shop", fieldAccess [.tuple [.text "line", .int 9], mark])]
    first ≠ second ∧ first.Alike second ∧
      first.scan.failed = second.scan.failed ∧
      first.rescan.store.bare = second.rescan.store.bare ∧
      ∀ (resolver : Resolver) (limits : Limits) (cancelAfter : Option Nat) (start : Ref),
        resolver.build first.rescan.store limits cancelAfter start =
          resolver.build second.rescan.store limits cancelAfter start := by
  intro mark first second
  have halike : first.Alike second := .cons ⟨rfl, fieldAccess_alike (by decide)⟩ .nil
  exact ⟨by decide, halike, rescan_reformat halike⟩

end Memory

end CallAtlas
