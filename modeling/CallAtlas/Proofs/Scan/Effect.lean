import CallAtlas.Scan
import CallAtlas.Session

/-!
What a rescan does to the store.  A listed module gets its new block, or keeps the old one if there
is no new one; a module that is not listed has none afterwards.  Every listed module is counted
once.
-/

namespace CallAtlas

namespace Store

theorem mem_names (store : Store) (module : Text) :
    module ∈ store.names ↔ store.get? module ≠ none := by
  rw [get?, ne_eq, Table.get?_eq_none_iff, Decidable.not_not, names, sortNames, List.mem_mergeSort]

theorem get?_foldl_remove (store : Store) (modules : List Text) (module : Text) :
    (modules.foldl remove store).get? module =
      if module ∈ modules then none else store.get? module := by
  induction modules generalizing store with
  | nil => simp
  | cons first rest ih =>
      rw [List.foldl_cons, ih, get?_remove]
      by_cases hrest : module ∈ rest
      · simp [hrest]
      · by_cases hfirst : first = module
        · simp [hfirst]
        · simp [hrest, hfirst, Ne.symm hfirst]

end Store

theorem ScanError.isReported_ofNormal (module : Text) (fault : NormalError) :
    (ScanError.ofNormal module fault).isReported = true := by
  cases fault <;> rfl

section ScanTree

variable [Depths] {module : Text} {tree : Term}

theorem scanTree_of_ok {normal : Normal} (h : Normal.ofTree tree (some module) = .ok normal) :
    scanTree module (.ok (some tree)) = .ok normal := by
  rw [scanTree, h]
  rfl

theorem scanTree_of_error {fault : NormalError}
    (h : Normal.ofTree tree (some module) = .error fault) :
    scanTree module (.ok (some tree)) = .error (.ofNormal module fault) := by
  rw [scanTree, h]
  rfl

/-- A module whose tree was found fails only if the tree has no block. -/
theorem scanTree_some_eq_error_iff {cause : ScanError} :
    scanTree module (.ok (some tree)) = .error cause ↔
      ∃ fault, Normal.ofTree tree (some module) = .error fault ∧
        cause = ScanError.ofNormal module fault := by
  cases hnormal : Normal.ofTree tree (some module) with
  | ok normal => simp [scanTree_of_ok hnormal]
  | error fault => simp [scanTree_of_error hnormal, eq_comm]

/-- Whatever a tree is like, a scan goes on after it: only a source can end a scan early. -/
theorem isReported_of_scanTree {found : Except SourceFault (Option Term)} {cause : ScanError}
    (hfound : ∀ fault, found = .error fault → fault.isReported = true)
    (hcause : scanTree module found = .error cause) : cause.isReported = true := by
  rcases found with fault | _ | tree
  · obtain rfl := Except.error.inj hcause
    exact hfound fault rfl
  · obtain rfl := Except.error.inj hcause
    rfl
  · obtain ⟨fault, _, rfl⟩ := scanTree_some_eq_error_iff.mp hcause
    exact ScanError.isReported_ofNormal module fault

end ScanTree

namespace Scan

section Run

variable [Depths] (lookup : Text → Except SourceFault (Option Term))

/-- The block that a scan stores for a module, if there is one. -/
def block? (module : Text) : Option Block :=
  (scanTree module (lookup module)).toOption.map Normal.block

/-- Whether every failure to look one of the modules up is reported and the scan goes on. -/
def GoesOn (listed : List Text) : Prop :=
  ∀ module ∈ listed, ∀ cause, scanTree module (lookup module) = .error cause →
    cause.isReported = true

variable {lookup}

theorem goesOn_cons {module : Text} {rest : List Text} :
    GoesOn lookup (module :: rest) ↔
      (∀ cause, scanTree module (lookup module) = .error cause → cause.isReported = true) ∧
        GoesOn lookup rest :=
  List.forall_mem_cons

/-- A scan goes on if every fault of its source is one that is reported. -/
theorem goesOn_of_reported {listed : List Text}
    (hreported : ∀ module ∈ listed, ∀ fault, lookup module = .error fault →
      fault.isReported = true) : GoesOn lookup listed := by
  intro module hmodule cause
  exact isReported_of_scanTree (hreported module hmodule)

theorem run_of_ok {module : Text} {normal : Normal}
    (h : scanTree module (lookup module) = .ok normal) (rest : List Text) (store : Store) :
    run lookup (module :: rest) store =
      let scan := run lookup rest (store.put module normal.block)
      { scan with results := (module, .ok normal) :: scan.results } := by
  simp only [run, h]

theorem run_of_error {module : Text} {cause : ScanError}
    (h : scanTree module (lookup module) = .error cause) (hreported : cause.isReported = true)
    (rest : List Text) (store : Store) :
    run lookup (module :: rest) store =
      let scan := run lookup rest store
      { scan with results := (module, .error cause) :: scan.results } := by
  simp only [run, h, hreported, if_true]

theorem fault_run {listed : List Text} (hgoes : GoesOn lookup listed) (store : Store) :
    (run lookup listed store).fault = none := by
  induction listed generalizing store with
  | nil => rfl
  | cons module rest ih =>
      obtain ⟨hmodule, hrest⟩ := goesOn_cons.mp hgoes
      cases hresult : scanTree module (lookup module) with
      | ok normal => simp [run, hresult, ih hrest]
      | error cause => simp [run, hresult, hmodule cause hresult, ih hrest]

/-- Listed modules get their new block or keep the old one, other modules keep theirs. -/
theorem get?_run {listed : List Text} (hgoes : GoesOn lookup listed) (store : Store)
    (module : Text) :
    (run lookup listed store).store.get? module =
      if module ∈ listed then (block? lookup module).or (store.get? module)
      else store.get? module := by
  induction listed generalizing store with
  | nil => rfl
  | cons first rest ih =>
      obtain ⟨hfirst, hrest⟩ := goesOn_cons.mp hgoes
      cases hresult : scanTree first (lookup first) with
      | ok normal =>
          have hstep : (run lookup (first :: rest) store).store =
              (run lookup rest (store.put first normal.block)).store := by
            simp [run, hresult]
          rw [hstep, ih hrest, Store.get?_put]
          by_cases hmodule : first = module
          · subst hmodule
            have hblock : block? lookup first = some normal.block := by
              simp [block?, hresult, Except.toOption]
            simp [hblock]
          · simp [hmodule, Ne.symm hmodule]
      | error cause =>
          have hstep : (run lookup (first :: rest) store).store =
              (run lookup rest store).store := by
            simp [run, hresult, hfirst cause hresult]
          rw [hstep, ih hrest]
          by_cases hmodule : first = module
          · subst hmodule
            have hblock : block? lookup first = none := by
              simp [block?, hresult, Except.toOption]
            simp [hblock]
          · simp [Ne.symm hmodule]

/-- Every listed module has its result, in the order of the listing. -/
theorem results_run {listed : List Text} (hgoes : GoesOn lookup listed) (store : Store) :
    (run lookup listed store).results =
      listed.map fun module => (module, scanTree module (lookup module)) := by
  induction listed generalizing store with
  | nil => rfl
  | cons first rest ih =>
      obtain ⟨hfirst, hrest⟩ := goesOn_cons.mp hgoes
      cases hresult : scanTree first (lookup first) with
      | ok normal => simp [run, hresult, ih hrest]
      | error cause => simp [run, hresult, hfirst cause hresult, ih hrest]

end Run

/-- Every result is counted once: as a module, or as a failure. -/
theorem modules_add_failed (scan : Scan) (removed : Nat) :
    (scan.stats removed).modules + (scan.stats removed).failed = scan.results.length := by
  obtain ⟨store, results, fault⟩ := scan
  simp only [stats]
  induction results with
  | nil => rfl
  | cons first rest ih =>
      obtain ⟨module, result⟩ := first
      cases result with
      | ok normal =>
          simp only [List.filterMap_cons, Except.toOption, Option.map_some,
            List.length_cons] at ih ⊢
          omega
      | error cause =>
          simp only [List.filterMap_cons, Except.toOption, Option.map_none,
            List.length_cons] at ih ⊢
          omega

/-- Every recorded failure is that of a result. -/
theorem exists_of_mem_errors {scan : Scan} {removed : Nat} {error : Text}
    (herror : error ∈ (scan.stats removed).errors) :
    ∃ module cause, (module, .error cause) ∈ scan.results ∧
      error = module ++ ": " ++ cause.message := by
  obtain ⟨⟨module, result⟩, hresult, heq⟩ := List.mem_filterMap.mp herror
  cases result with
  | ok normal => simp at heq
  | error cause => exact ⟨module, cause, hresult, (Option.some.inj heq).symm⟩

theorem mem_unlisted {store : Store} {listed : List Text} {module : Text} :
    module ∈ unlisted store listed ↔ store.get? module ≠ none ∧ module ∉ listed := by
  rw [unlisted, List.mem_filter, Store.mem_names, decide_eq_true_iff]

theorem get?_prune (store : Store) (listed : List Text) (module : Text) :
    (prune store listed).get? module = if module ∈ listed then store.get? module else none := by
  rw [prune, Store.get?_foldl_remove]
  by_cases hlisted : module ∈ listed
  · simp [mem_unlisted, hlisted]
  · by_cases hstored : store.get? module = none
    · simp [mem_unlisted, hlisted, hstored]
    · simp [mem_unlisted, hlisted, hstored]

end Scan

namespace Store

variable [Depths] {lookup : Text → Except SourceFault (Option Term)} {listed : List Text}

theorem rescan_store (hgoes : Scan.GoesOn lookup listed) (store : Store) :
    (store.rescan listed lookup).store =
      Scan.prune (Scan.run lookup listed store).store listed := by
  simp only [rescan, Scan.fault_run hgoes]

theorem rescan_outcome (hgoes : Scan.GoesOn lookup listed) (store : Store) :
    (store.rescan listed lookup).outcome =
      .ok ((Scan.run lookup listed store).stats
        (Scan.unlisted (Scan.run lookup listed store).store listed).length) := by
  simp only [rescan, Scan.fault_run hgoes]

/-- A rescan that goes on through its whole listing leaves the new blocks of listed modules, the old
blocks of those without a new one, and nothing else. -/
theorem get?_rescan (hgoes : Scan.GoesOn lookup listed) (store : Store) (module : Text) :
    (store.rescan listed lookup).store.get? module =
      if module ∈ listed then (Scan.block? lookup module).or (store.get? module) else none := by
  rw [rescan_store hgoes, Scan.get?_prune, Scan.get?_run hgoes]
  by_cases hlisted : module ∈ listed <;> simp [hlisted]

end Store

namespace Memory

variable [Depths] (memory : Memory)

/-- How a scan looks modules up in memory. -/
def lookup (module : Text) : Except SourceFault (Option Term) := .ok (memory.resolve module)

/-- The block of a module as its tree stands in memory; none if there is no tree, or if the tree
cannot be normalized. -/
def block? (module : Text) : Option Block :=
  (memory.resolve module).bind fun tree =>
    (Normal.ofTree tree (some module)).toOption.map Normal.block

/-- Memory never fails in a way that ends a scan. -/
theorem goesOn_lookup (listed : List Text) : Scan.GoesOn memory.lookup listed := by
  apply Scan.goesOn_of_reported
  intro module _ fault hfault
  cases hfault

theorem block?_lookup (module : Text) :
    Scan.block? memory.lookup module = memory.block? module := by
  cases hresolve : memory.resolve module with
  | none => simp [Scan.block?, scanTree, lookup, block?, hresolve, Except.toOption]
  | some tree =>
      cases hnormal : Normal.ofTree tree (some module) with
      | ok normal =>
          simp [Scan.block?, lookup, block?, hresolve, hnormal, scanTree_of_ok hnormal,
            Except.toOption]
      | error fault =>
          simp [Scan.block?, lookup, block?, hresolve, hnormal, scanTree_of_error hnormal,
            Except.toOption]

end Memory

namespace Session

theorem rescan_memory [Depths] {session : Session} {memory : Memory}
    (hopen : session.isClosed = false) (hsource : session.source = .memory memory) (files : FileTree) :
    (session.rescan files).session =
      { session with store := (session.store.rescan memory.list memory.lookup).store } := by
  obtain ⟨settings, source, store, isClosed⟩ := session
  obtain rfl : isClosed = false := hopen
  obtain rfl : source = .memory memory := hsource
  rfl

end Session

end CallAtlas
