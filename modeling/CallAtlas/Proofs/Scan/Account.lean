import Mathlib.Algebra.GroupWithZero.Nat
import Mathlib.Data.List.Forall2
import CallAtlas.Proofs.Scan.Effect
import CallAtlas.Proofs.Table

/-!
The account of a rescan: what the store holds after it, and what the statistics count.

Every listed module is of one of two kinds.  It has a new block, because its tree was found and
could be normalized, or it failed, for whatever reason.  Modules of the first kind are stored and
counted with their clauses and calls; those of the second kind keep what they had and are listed as
failures; all others are removed.
-/

namespace CallAtlas

namespace Scan

variable [Depths] (lookup : Text → Except SourceFault (Option Term))

/-- The new block of a module: the normal form of its tree, if there is a tree that has one. -/
def newBlock? (module : Text) : Option Block :=
  match lookup module with
  | .ok (some tree) => (Normal.ofTree tree (some module)).toOption.map Normal.block
  | _ => none

/-- What is recorded of a module that failed. -/
def failure? (module : Text) : Option Text :=
  match scanTree module (lookup module) with
  | .error cause => some (module ++ ": " ++ cause.message)
  | .ok _ => none

/-- What a rescan of a listing should leave: the store after it, and its statistics. -/
structure Account (store : Store) (listed : List Text) (after : Store) (stats : ScanStats) :
    Prop where
  /-- A listed module with a new block has it. -/
  replaced : ∀ module ∈ listed, ∀ block, newBlock? lookup module = some block →
    after.get? module = some block
  /-- A listed module that failed has what it had. -/
  kept : ∀ module ∈ listed, newBlock? lookup module = none →
    after.get? module = store.get? module
  /-- No other module has a block. -/
  dropped : ∀ module, module ∉ listed → after.get? module = none
  modules_eq : stats.modules = listed.countP fun module => (newBlock? lookup module).isSome
  failed_eq : stats.failed = listed.countP fun module => (newBlock? lookup module).isNone
  errors_length : stats.errors.length = stats.failed
  /-- The failures stand in the order of the listing, each with its module and its cause. -/
  errors : List.Forall₂
    (fun module error => ∃ cause, scanTree module (lookup module) = .error cause ∧
      error = module ++ ": " ++ cause.message)
    (listed.filter fun module => (newBlock? lookup module).isNone) stats.errors
  functions_eq : stats.functions =
    ((listed.filterMap (newBlock? lookup)).map fun block => block.clauses.length).sum
  calls_eq : stats.calls =
    ((listed.filterMap (newBlock? lookup)).map fun block =>
      (block.clauses.map fun clause => clause.calls.length).sum).sum
  removed_eq : stats.removed =
    (store.blocks.keys.filter fun module => decide (module ∉ listed)).length

section Kinds

/-- A module has a new block just when its scan succeeds. -/
theorem block?_eq_newBlock? (module : Text) : block? lookup module = newBlock? lookup module := by
  unfold newBlock? block?
  split
  · rename_i tree hfound
    rw [hfound]
    cases hnormal : Normal.ofTree tree (some module) with
    | ok normal => rw [scanTree_of_ok hnormal]; rfl
    | error fault => rw [scanTree_of_error hnormal]; rfl
  · rename_i hfound
    rcases hresult : lookup module with fault | _ | tree
    · rfl
    · rfl
    · exact absurd hresult (hfound tree)

theorem newBlock?_of_ok {module : Text} {normal : Normal}
    (h : scanTree module (lookup module) = .ok normal) :
    newBlock? lookup module = some normal.block := by
  rw [← block?_eq_newBlock?, block?, h]
  rfl

theorem newBlock?_of_error {module : Text} {cause : ScanError}
    (h : scanTree module (lookup module) = .error cause) : newBlock? lookup module = none := by
  rw [← block?_eq_newBlock?, block?, h]
  rfl

/-- A failure is recorded for just those modules that have no new block. -/
theorem isSome_failure? (module : Text) :
    (failure? lookup module).isSome = (newBlock? lookup module).isNone := by
  rcases hresult : scanTree module (lookup module) with cause | normal
  · rw [newBlock?_of_error lookup hresult, failure?, hresult]
    rfl
  · rw [newBlock?_of_ok lookup hresult, failure?, hresult]
    rfl

/-- The failing modules of a listing, in its order, beside what is recorded of them. -/
theorem forall₂_failures (listed : List Text) :
    List.Forall₂
      (fun module error => ∃ cause, scanTree module (lookup module) = .error cause ∧
        error = module ++ ": " ++ cause.message)
      (listed.filter fun module => (newBlock? lookup module).isNone)
      (listed.filterMap (failure? lookup)) := by
  induction listed with
  | nil => exact .nil
  | cons module rest ih =>
      rcases hresult : scanTree module (lookup module) with cause | normal
      · have hfailure : failure? lookup module = some (module ++ ": " ++ cause.message) := by
          rw [failure?, hresult]
        rw [List.filter_cons_of_pos (by rw [newBlock?_of_error lookup hresult]; rfl),
          List.filterMap_cons_some hfailure]
        exact .cons ⟨cause, hresult, rfl⟩ ih
      · have hfailure : failure? lookup module = none := by
          rw [failure?, hresult]
        rw [List.filter_cons_of_neg (by rw [newBlock?_of_ok lookup hresult]; simp),
          List.filterMap_cons_none hfailure]
        exact ih

end Kinds

variable {lookup} {listed : List Text}

section Statistics

/-- The blocks that the statistics count are the new blocks of the listing. -/
theorem blocks_results_run (hgoes : GoesOn lookup listed) (store : Store) :
    ((run lookup listed store).results.filterMap fun (_, result) =>
        result.toOption.map Normal.block) = listed.filterMap (newBlock? lookup) := by
  rw [results_run hgoes, List.filterMap_map]
  apply List.filterMap_congr
  intro module _
  exact block?_eq_newBlock? lookup module

theorem errors_run (hgoes : GoesOn lookup listed) (store : Store) (removed : Nat) :
    ((run lookup listed store).stats removed).errors = listed.filterMap (failure? lookup) := by
  simp only [stats]
  rw [results_run hgoes, List.filterMap_map]
  rfl

theorem modules_run (hgoes : GoesOn lookup listed) (store : Store) (removed : Nat) :
    ((run lookup listed store).stats removed).modules =
      listed.countP fun module => (newBlock? lookup module).isSome := by
  simp only [stats]
  rw [blocks_results_run hgoes, List.length_filterMap_eq_countP]

theorem failed_run (hgoes : GoesOn lookup listed) (store : Store) (removed : Nat) :
    ((run lookup listed store).stats removed).failed =
      listed.countP fun module => (newBlock? lookup module).isNone := by
  change ((run lookup listed store).stats removed).errors.length = _
  rw [errors_run hgoes, List.length_filterMap_eq_countP]
  simp only [isSome_failure?]

theorem functions_run (hgoes : GoesOn lookup listed) (store : Store) (removed : Nat) :
    ((run lookup listed store).stats removed).functions =
      ((listed.filterMap (newBlock? lookup)).map fun block => block.clauses.length).sum := by
  simp only [stats]
  rw [blocks_results_run hgoes, List.sum_eq_foldr, List.foldr_map]

omit [Depths] in
theorem callCount_eq_sum (block : Block) :
    block.callCount = (block.clauses.map fun clause => clause.calls.length).sum := by
  rw [Block.callCount, List.sum_eq_foldr, List.foldr_map]

theorem calls_run (hgoes : GoesOn lookup listed) (store : Store) (removed : Nat) :
    ((run lookup listed store).stats removed).calls =
      ((listed.filterMap (newBlock? lookup)).map fun block =>
        (block.clauses.map fun clause => clause.calls.length).sum).sum := by
  simp only [stats]
  rw [blocks_results_run hgoes, List.sum_eq_foldr, List.foldr_map]
  simp only [callCount_eq_sum]

end Statistics

section Removal

omit [Depths] in
/-- Storing a listed module adds no key that is not listed. -/
theorem unlisted_keys_put {all : List Text} {module : Text} (hmodule : module ∈ all) (store : Store)
    (block : Block) :
    (store.put module block).blocks.keys.filter (fun key => decide (key ∉ all)) =
      store.blocks.keys.filter fun key => decide (key ∉ all) := by
  change (store.blocks.insert module block).keys.filter _ = _
  rw [Table.keys_insert]
  split
  · rfl
  · rw [List.filter_append, List.filter_cons_of_neg (by simpa using hmodule), List.filter_nil,
      List.append_nil]

/-- A scan of listed modules adds no key that is not listed. -/
theorem unlisted_keys_run {all : List Text} (hgoes : GoesOn lookup listed)
    (hlisted : ∀ module ∈ listed, module ∈ all) (store : Store) :
    (run lookup listed store).store.blocks.keys.filter (fun key => decide (key ∉ all)) =
      store.blocks.keys.filter fun key => decide (key ∉ all) := by
  induction listed generalizing store with
  | nil => rfl
  | cons module rest ih =>
      obtain ⟨hreported, hgoes⟩ := goesOn_cons.mp hgoes
      obtain ⟨hmodule, hrest⟩ := List.forall_mem_cons.mp hlisted
      rcases hresult : scanTree module (lookup module) with cause | normal
      · rw [run_of_error hresult (hreported cause hresult)]
        exact ih hgoes hrest store
      · rw [run_of_ok hresult]
        exact (ih hgoes hrest _).trans (unlisted_keys_put hmodule store normal.block)

theorem length_unlisted_run (hgoes : GoesOn lookup listed) (store : Store) :
    (unlisted (run lookup listed store).store listed).length =
      (store.blocks.keys.filter fun module => decide (module ∉ listed)).length := by
  rw [← unlisted_keys_run hgoes (fun _ => id) store, unlisted]
  apply List.Perm.length_eq
  apply List.Perm.filter
  exact List.mergeSort_perm _ _

end Removal

/-- A scan that goes on through its whole listing leaves what it should. -/
theorem account_rescan (hgoes : GoesOn lookup listed) (store : Store) :
    ∃ stats, (store.rescan listed lookup).outcome = .ok stats ∧
      Account lookup store listed (store.rescan listed lookup).store stats := by
  have hget := Store.get?_rescan hgoes store
  refine ⟨_, Store.rescan_outcome hgoes store, ?_⟩
  constructor
  · intro module hlisted block hblock
    rw [hget, if_pos hlisted, block?_eq_newBlock?, hblock]
    rfl
  · intro module hlisted hnone
    rw [hget, if_pos hlisted, block?_eq_newBlock?, hnone]
    rfl
  · intro module hlisted
    rw [hget, if_neg hlisted]
  · exact modules_run hgoes store _
  · exact failed_run hgoes store _
  · rfl
  · rw [errors_run hgoes]
    exact forall₂_failures lookup listed
  · exact functions_run hgoes store _
  · exact calls_run hgoes store _
  · exact length_unlisted_run hgoes store

end Scan

namespace Session

/-- How a rescan looks modules up after it has listed the source. -/
def lookup [Depths] (session : Session) (files : FileTree) (module : Text) :
    Except SourceFault (Option Term) :=
  ((session.source.list files).source.resolve files module).value

variable {session : Session} {files : FileTree} (hopen : session.isClosed = false)

include hopen

theorem rescan_of_error [Depths] {fault : SourceFault}
    (hlist : (session.source.list files).value = .error fault) :
    (session.rescan files).value = .error (.failed (.source fault)) ∧
      (session.rescan files).session.store = session.store := by
  simp [rescan, hopen, hlist]

theorem rescan_of_ok [Depths] {modules : List Text}
    (hlist : (session.source.list files).value = .ok modules) {stats : ScanStats}
    (hstats : (session.store.rescan modules (session.lookup files)).outcome = .ok stats) :
    (session.rescan files).value =
        .ok ⟨stats, (session.store.rescan modules (session.lookup files)).progress⟩ ∧
      (session.rescan files).session.store =
        (session.store.rescan modules (session.lookup files)).store := by
  have hlookup : (fun module => ((session.source.list files).source.resolve files module).value) =
      session.lookup files := rfl
  simp [rescan, hopen, hlist, hlookup, hstats]

omit hopen

/-- The exact effect of a rescan.  Whatever the trees of the listed modules are like, and however
many of them are missing or cannot be read, a scan goes through its whole listing and leaves what it
should; so does the rescan of a session, provided that its source can be listed.  If it cannot, the
rescan fails and the store stays as it was. -/
theorem rescan_exact_effect [Depths] :
    (∀ (store : Store) (listed : List Text) (lookup : Text → Except SourceFault (Option Term)),
      (∀ module ∈ listed, ∀ fault, lookup module = .error fault → fault.isReported = true) →
      ∃ stats, (store.rescan listed lookup).outcome = .ok stats ∧
        Scan.Account lookup store listed (store.rescan listed lookup).store stats) ∧
    ∀ (session : Session) (files : FileTree), session.isClosed = false →
      match (session.source.list files).value with
      | .error fault =>
        (session.rescan files).value = .error (.failed (.source fault)) ∧
          (session.rescan files).session.store = session.store
      | .ok modules =>
        (∀ module ∈ modules, ∀ fault, session.lookup files module = .error fault →
          fault.isReported = true) →
        ∃ rescanned, (session.rescan files).value = .ok rescanned ∧
          Scan.Account (session.lookup files) session.store modules
            (session.rescan files).session.store rescanned.stats := by
  refine ⟨fun store listed lookup hreported =>
    Scan.account_rescan (Scan.goesOn_of_reported hreported) store, ?_⟩
  intro session files hopen
  split
  · rename_i fault hlist
    exact rescan_of_error hopen hlist
  · rename_i modules hlist
    intro hreported
    obtain ⟨stats, hstats, haccount⟩ :=
      Scan.account_rescan (Scan.goesOn_of_reported hreported) session.store
    obtain ⟨hvalue, hstore⟩ := rescan_of_ok hopen hlist hstats
    rw [hstore]
    exact ⟨_, hvalue, haccount⟩

/-- One module is new, one is missing, one cannot be read and one is no definition; of the stored
modules one is listed and one is not. -/
theorem rescan_exact_effect_mixed :
    let cart : Term :=
      .tuple [.text "defmodule", .list [], .list [
        .tuple [.text "__aliases__", .list [], .list [.text "Cart"]],
        .list [.tuple [.text "do", .tuple [.text "def", .list [], .list [
          .tuple [.text "total", .list [], .list []],
          .list [.tuple [.text "do", .tuple [.text "sum", .list [], .list []]]]]]]]]]
    let lookup : Text → Except SourceFault (Option Term) := fun module =>
      if module = "Cart" then .ok (some cart)
      else if module = "Prices" then .ok none
      else if module = "Torn" then .error (.unreadable "torn.json")
      else .ok (some .null)
    let store := (Store.empty.put "Prices" { name := "Prices" }).put "Old" { name := "Old" }
    let listed : List Text := ["Torn", "Cart", "Prices", "Odd"]
    (∀ module ∈ listed, ∀ fault, lookup module = .error fault → fault.isReported = true) ∧
      ∃ stats, (store.rescan listed lookup).outcome = .ok stats ∧
        Scan.Account lookup store listed (store.rescan listed lookup).store stats := by
  intro cart lookup store listed
  have hreported : ∀ module ∈ listed, ∀ fault, lookup module = .error fault →
      fault.isReported = true := by
    intro module _ fault hfault
    simp only [lookup] at hfault
    split_ifs at hfault
    obtain rfl := Except.error.inj hfault
    rfl
  exact ⟨hreported, rescan_exact_effect.1 store listed lookup hreported⟩

end Session

end CallAtlas
