import CallAtlas.Proofs.Scan.Effect
import CallAtlas.Proofs.Source.Index

/-!
Rescanning a folder of dumps.  Modules are loaded again, one by one, after the folder was listed and
while the store is being filled.  What could stop the rescan in between has stopped the listing
before: a module is listed only if its file could be loaded and defines it.  So a rescan fails
before it touches the store, or it goes through the whole listing.
-/

namespace CallAtlas

namespace Dumps

variable [Depths] (dumps : Dumps) (files : FileTree)

/-- How a rescan looks modules up after it has listed the folder. -/
def lookup (module : Text) : Except SourceFault (Option Term) :=
  ((dumps.list files).dumps.resolve files module).value

variable {dumps files} {modules : List Text}

theorem exists_lookup_of_list (hlist : (dumps.list files).value = .ok modules) {module : Text}
    (hmodule : module ∈ modules) : ∃ tree, dumps.lookup files module = .ok (some tree) := by
  obtain ⟨tree, hresolve⟩ := exists_resolve_of_list hlist hmodule
  exact ⟨tree, by rw [lookup, hresolve]⟩

/-- The only failure of a listed module is that its tree has no block. -/
theorem exists_of_scanTree_eq_error (hlist : (dumps.list files).value = .ok modules)
    {module : Text} (hmodule : module ∈ modules) {cause : ScanError}
    (hcause : scanTree module (dumps.lookup files module) = .error cause) :
    ∃ tree fault, dumps.lookup files module = .ok (some tree) ∧
      Normal.ofTree tree (some module) = .error fault ∧
      cause = ScanError.ofNormal module fault := by
  obtain ⟨tree, htree⟩ := exists_lookup_of_list hlist hmodule
  rw [htree] at hcause
  obtain ⟨fault, hfault, rfl⟩ := scanTree_some_eq_error_iff.mp hcause
  exact ⟨tree, fault, htree, hfault, rfl⟩

theorem goesOn_lookup (hlist : (dumps.list files).value = .ok modules) :
    Scan.GoesOn (dumps.lookup files) modules := by
  intro module hmodule cause hcause
  obtain ⟨tree, fault, _, _, rfl⟩ := exists_of_scanTree_eq_error hlist hmodule hcause
  exact ScanError.isReported_ofNormal module fault

end Dumps

namespace Session

variable [Depths] (settings : Settings) (dumps : Dumps) (store : Store) (files : FileTree)

/-- A session on a folder of dumps, with any index from earlier listings and anything stored. -/
def onDumps : Session := { settings, source := .dumps dumps, store }

theorem rescan_onDumps_of_error {fault : SourceFault}
    (hlist : (dumps.list files).value = .error fault) :
    ((onDumps settings dumps store).rescan files).value = .error (.failed (.source fault)) ∧
      ((onDumps settings dumps store).rescan files).session.store = store := by
  simp [rescan, onDumps, Source.list, hlist]

theorem rescan_onDumps_of_ok {modules : List Text}
    (hlist : (dumps.list files).value = .ok modules) {stats : ScanStats}
    (houtcome : (store.rescan modules (dumps.lookup files)).outcome = .ok stats) :
    ((onDumps settings dumps store).rescan files).value =
      .ok ⟨stats, (store.rescan modules (dumps.lookup files)).progress⟩ := by
  have hlookup : (fun module =>
      ((Source.dumps (dumps.list files).dumps).resolve files module).value) =
        dumps.lookup files := rfl
  simp [rescan, onDumps, Source.list, hlist, hlookup, houtcome]

/-- A rescan of a folder of dumps is never half done.  If the folder cannot be listed the rescan
fails and leaves the store as it was.  Otherwise it gives statistics in which every listed module is
counted, and each failure in them is that of a module whose tree was found and has no block. -/
theorem rescan_dumps_all_or_nothing :
    match (dumps.list files).value with
    | .error fault =>
      ((onDumps settings dumps store).rescan files).value = .error (.failed (.source fault)) ∧
        ((onDumps settings dumps store).rescan files).session.store = store
    | .ok modules =>
      ∃ rescanned, ((onDumps settings dumps store).rescan files).value = .ok rescanned ∧
        rescanned.stats.modules + rescanned.stats.failed = modules.length ∧
        ∀ error ∈ rescanned.stats.errors, ∃ module ∈ modules, ∃ tree fault,
          ((dumps.list files).dumps.resolve files module).value = .ok (some tree) ∧
            Normal.ofTree tree (some module) = .error fault ∧
            error = module ++ ": " ++ (ScanError.ofNormal module fault).message := by
  cases hlist : (dumps.list files).value with
  | error fault => exact rescan_onDumps_of_error settings dumps store files hlist
  | ok modules =>
      have hgoes := Dumps.goesOn_lookup hlist
      have houtcome := Store.rescan_outcome hgoes store
      refine ⟨_, rescan_onDumps_of_ok settings dumps store files hlist houtcome, ?_, ?_⟩
      · change (Scan.stats _ _).modules + (Scan.stats _ _).failed = _
        rw [Scan.modules_add_failed, Scan.results_run hgoes, List.length_map]
      · intro error herror
        obtain ⟨module, cause, hresult, rfl⟩ := Scan.exists_of_mem_errors herror
        rw [Scan.results_run hgoes, List.mem_map] at hresult
        obtain ⟨listed, hlisted, heq⟩ := hresult
        obtain ⟨rfl, hcause⟩ := Prod.mk.inj heq
        obtain ⟨tree, fault, htree, hfault, rfl⟩ :=
          Dumps.exists_of_scanTree_eq_error hlist hlisted hcause
        exact ⟨listed, hlisted, tree, fault, htree, hfault, rfl⟩

end Session

end CallAtlas
