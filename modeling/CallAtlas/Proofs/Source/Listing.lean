import CallAtlas.Proofs.Source.Dump
import CallAtlas.Proofs.Source.Index
import CallAtlas.Proofs.Table

/-!
The listing of a folder of dumps, file by file.  A file that cannot be read or that is no dump is
passed over.  Two kinds of file end the whole listing: one with a whole number of too many digits,
and one in which the search for modules never ends.  Where there are none, the listing has the
modules of every file that can be loaded.
-/

namespace CallAtlas

/-- The modules that a tree defines, each with its definition. -/
abbrev Term.definitions (tree : Term) : List (Text × Term) := (Listing.ofTree none tree).modules

/-- The tree of a module with a body. -/
def Term.moduleOf (name : Text) (body : Term) : Term :=
  .tuple [.text "defmodule", .list [],
    .list [.tuple [.text "__aliases__", .list [], .list [.text name]],
      .list [.tuple [.text "do", body]]]]

namespace Dumps

variable (dumps : Dumps) (tree : FileTree)

/-- The fault with which a file ends a listing, if it does. -/
def fatal? [Depths] (file : Path) : Option SourceFault :=
  match dumps.load tree file with
  | .error (.oversized digits) => some (.oversized digits)
  | .error _ => none
  | .ok content => if (Listing.ofTree none content).endless then some .endless else none

/-- The files that can be loaded, with their trees. -/
def loaded [Depths] (files : List Path) : List (Path × Term) :=
  files.filterMap fun file => (dumps.load tree file).toOption.map (file, ·)

/-- An index with the modules of some loaded files entered. -/
def entered (index : Table Text Path) (loaded : List (Path × Term)) : Table Text Path :=
  loaded.foldl (fun index found => (dumps.enter found.1 index found.2.definitions).1) index

variable {dumps tree}

/-- Dumps that stand in order already are listed as they stand. -/
theorem files_eq {paths : List Path}
    (hpaths : ((tree.pathsIn dumps.folder).filter fun path =>
      isDumpName (path.getLast?.getD "") && !dumps.isExcluded path) = paths)
    (hsorted : paths.Pairwise fun first second => namesLe first second = true) :
    dumps.files tree = paths := by
  rw [files, hpaths, List.mergeSort_of_pairwise hsorted]

/-- A file that holds what was dumped has its tree. -/
theorem load_of_write [Depths] {file : Path} {content : Term}
    (hentry : tree.get? (dumps.folder ++ file) = some (.file (Dump.write content)))
    (hportable : content.isPortable = true) (hdepth : content.encode.depth ≤ Depths.read) :
    dumps.load tree file = .ok content := by
  simp only [load, hentry, Dump.read_write hportable hdepth]
  rfl

theorem mem_loaded [Depths] {files : List Path} {file : Path} {content : Term} :
    (file, content) ∈ dumps.loaded tree files ↔
      file ∈ files ∧ dumps.load tree file = .ok content := by
  rw [loaded, List.mem_filterMap]
  constructor
  · rintro ⟨found, hfound, heq⟩
    cases hload : dumps.load tree found with
    | error fault => simp [hload, Except.toOption] at heq
    | ok own =>
        simp only [hload, Except.toOption, Option.map_some, Option.some.injEq,
          Prod.mk.injEq] at heq
        obtain ⟨rfl, rfl⟩ := heq
        exact ⟨hfound, hload⟩
  · rintro ⟨hfile, hload⟩
    exact ⟨file, hfile, by simp [hload, Except.toOption]⟩

theorem fatal?_of_ok [Depths] {file : Path} {content : Term}
    (hload : dumps.load tree file = .ok content) {listing : Listing}
    (hlisting : Listing.ofTree none content = listing) :
    dumps.fatal? tree file = if listing.endless then some .endless else none := by
  simp only [fatal?, hload, hlisting]

theorem fatal?_of_malformed [Depths] {file : Path} {name : Text}
    (hload : dumps.load tree file = .error (.malformed name)) :
    dumps.fatal? tree file = none := by
  simp only [fatal?, hload]

/-- Loading a file always ends. -/
theorem load_ne_endless [Depths] (file : Path) : dumps.load tree file ≠ .error .endless := by
  intro hload
  unfold load at hload
  split at hload
  · next text _ =>
      cases hread : Dump.read text with
      | ok content => simp [hread, Except.mapError] at hload
      | error fault =>
          simp only [hread, Except.mapError, Except.error.injEq] at hload
          cases fault with
          | unreadable cause => cases cause <;> simp [Dump.Fault.inFile] at hload
          | unexpectedObject cause => simp [Dump.Fault.inFile] at hload
  · simp at hload

/-- A fault that is not the end of a listing is reported. -/
theorem isReported_of_load [Depths] {file : Path} {fault : SourceFault}
    (hload : dumps.load tree file = .error fault) (hfatal : dumps.fatal? tree file = none) :
    fault.isReported = true := by
  cases fault with
  | oversized digits => simp [fatal?, hload] at hfatal
  | endless => exact absurd hload (load_ne_endless file)
  | unreadable _ | malformed _ | tooDeep _ | unexpectedObject _ | noFolder _ => rfl

section Step

variable [Depths] {file : Path} (index : Table Text Path) (rest : List Path)

theorem enterAll_of_fatal {fault : SourceFault} (hfatal : dumps.fatal? tree file = some fault) :
    (dumps.enterAll tree index (file :: rest)).index = .error fault := by
  unfold fatal? at hfatal
  cases hload : dumps.load tree file with
  | error cause =>
      cases cause with
      | oversized digits =>
          obtain rfl : .oversized digits = fault := by simpa [hload] using hfatal
          simp [enterAll, hload, SourceFault.isReported]
      | unreadable _ | malformed _ | tooDeep _ | unexpectedObject _ | noFolder _ | endless =>
          simp [hload] at hfatal
  | ok content =>
      cases hendless : (Listing.ofTree none content).endless with
      | false => simp [hload, hendless] at hfatal
      | true =>
          obtain rfl : .endless = fault := by simpa [hload, hendless] using hfatal
          simp [enterAll, hload, hendless]

theorem enterAll_of_skipped {cause : SourceFault} (hload : dumps.load tree file = .error cause)
    (hfatal : dumps.fatal? tree file = none) :
    (dumps.enterAll tree index (file :: rest)).index = (dumps.enterAll tree index rest).index := by
  simp [enterAll, hload, isReported_of_load hload hfatal]

theorem enterAll_of_loaded {content : Term} (hload : dumps.load tree file = .ok content)
    (hfatal : dumps.fatal? tree file = none) :
    (dumps.enterAll tree index (file :: rest)).index =
      (dumps.enterAll tree (dumps.enter file index content.definitions).1 rest).index := by
  have hends : (Listing.ofTree none content).endless = false := by
    simpa [fatal?, hload] using hfatal
  simp [enterAll, hload, hends]

end Step

variable (dumps tree)

/-- Entering files ends with the fault of the first file that has one; otherwise every file that can
be loaded is entered. -/
theorem enterAll_index [Depths] (index : Table Text Path) (files : List Path) :
    (dumps.enterAll tree index files).index =
      match files.findSome? (dumps.fatal? tree) with
      | some fault => .error fault
      | none => .ok (dumps.entered index (dumps.loaded tree files)) := by
  induction files generalizing index with
  | nil => rfl
  | cons file rest ih =>
      rw [List.findSome?_cons]
      cases hfatal : dumps.fatal? tree file with
      | some fault => exact enterAll_of_fatal index rest hfatal
      | none =>
          cases hload : dumps.load tree file with
          | error cause =>
              have hskip : dumps.loaded tree (file :: rest) = dumps.loaded tree rest := by
                simp [loaded, hload, Except.toOption]
              rw [enterAll_of_skipped index rest hload hfatal, ih, hskip]
          | ok content =>
              have hkeep : dumps.loaded tree (file :: rest) =
                  (file, content) :: dumps.loaded tree rest := by
                simp [loaded, hload, Except.toOption]
              rw [enterAll_of_loaded index rest hload hfatal, ih, hkeep]
              rfl

theorem enter_eq_insertAll (file : Path) (index : Table Text Path) (modules : List (Text × Term)) :
    (dumps.enter file index modules).1 =
      index.insertAll (modules.map fun definition => (definition.1, file)) := by
  induction modules generalizing index with
  | nil => rfl
  | cons first rest ih => exact ih (index.insert first.1 file)

/-- An index has the modules of the files entered, in order of their first occurrence. -/
theorem keys_entered {index : Table Text Path} {names : List Text}
    (hindex : index.keys = names.eraseDups) (loaded : List (Path × Term)) :
    (dumps.entered index loaded).keys =
      (names ++ loaded.flatMap fun found => found.2.definitions.map Prod.fst).eraseDups := by
  induction loaded generalizing index names with
  | nil => simpa [entered] using hindex
  | cons found rest ih =>
      have hstep : (dumps.enter found.1 index found.2.definitions).1.keys =
          (names ++ found.2.definitions.map Prod.fst).eraseDups := by
        rw [enter_eq_insertAll, Table.keys_insertAll hindex, List.map_map]
        rfl
      rw [List.flatMap_cons, ← List.append_assoc]
      exact ih hstep

/-- The listing of a folder that is there. -/
theorem list_value [Depths] (hfolder : tree.isFolder dumps.folder = true) :
    (dumps.list tree).value =
      match (dumps.files tree).findSome? (dumps.fatal? tree) with
      | some fault => .error fault
      | none =>
        .ok ((dumps.loaded tree (dumps.files tree)).flatMap fun found =>
          found.2.definitions.map Prod.fst).eraseDups := by
  have hempty : (Table.empty : Table Text Path).keys = ([] : List Text).eraseDups := rfl
  have hindex := dumps.enterAll_index tree .empty (dumps.files tree)
  unfold list makeIndex
  rw [if_pos hfolder]
  cases hfatal : (dumps.files tree).findSome? (dumps.fatal? tree) with
  | some fault =>
      simp only [hfatal] at hindex
      simp only [hindex]
  | none =>
      simp only [hfatal] at hindex
      simp only [hindex, dumps.keys_entered hempty, List.nil_append]

/-- A file that cannot be read or is no dump never hides the modules of others.  A listing fails only
for a file with a number of too many digits or with an endless search, and then with the fault of the
first such file; otherwise it has every module of every file that can be loaded. -/
theorem list_passes_over_faults [Depths] (hfolder : tree.isFolder dumps.folder = true) :
    match (dumps.files tree).findSome? (dumps.fatal? tree) with
    | some fault => (dumps.list tree).value = .error fault
    | none =>
      ∃ modules, (dumps.list tree).value = .ok modules ∧
        ∀ file ∈ dumps.files tree, ∀ content, dumps.load tree file = .ok content →
          ∀ module ∈ content.definitions.map Prod.fst, module ∈ modules := by
  have hvalue := dumps.list_value tree hfolder
  cases hfatal : (dumps.files tree).findSome? (dumps.fatal? tree) with
  | some fault => simpa only [hfatal] using hvalue
  | none =>
      simp only [hfatal] at hvalue
      refine ⟨_, hvalue, ?_⟩
      intro file hfile content hload module hmodule
      rw [List.mem_eraseDups, List.mem_flatMap]
      exact ⟨(file, content), mem_loaded.mpr ⟨hfile, hload⟩, hmodule⟩

/-- The dumps of a whole tree of files, without further exclusions. -/
def ofRoot : Dumps := .ofFolder [] "ast" []

/-- A folder with a file between two dumps that is no dump, and one module inside another. -/
def noisyFolder : FileTree :=
  ((FileTree.empty.write ["cart.json"] (.file (Dump.write (.moduleOf "Cart" .null)))).write
    ["noise.json"] (.file "[not json")).write
    ["shop.json"] (.file (Dump.write (.moduleOf "Shop" (.moduleOf "Item" .null))))

theorem list_passes_over_noise :
    noisyFolder.isFolder ofRoot.folder = true ∧
      ofRoot.load noisyFolder ["noise.json"] = .error (.malformed "ast/noise.json") ∧
      ∃ modules, (ofRoot.list noisyFolder).value = .ok modules ∧
        .plain "Cart" ∈ modules ∧ .plain "Shop" ∈ modules ∧ .plain "Shop.Item" ∈ modules := by
  have hfiles : ofRoot.files noisyFolder =
      [[.plain "cart.json"], [.plain "noise.json"], [.plain "shop.json"]] :=
    files_eq (by decide +kernel) (by decide +kernel)
  have hfolder : noisyFolder.isFolder ofRoot.folder = true := by decide +kernel
  have hcart : ofRoot.load noisyFolder [.plain "cart.json"] = .ok (.moduleOf "Cart" .null) :=
    load_of_write rfl (by decide +kernel) (by decide +kernel)
  have hshop : ofRoot.load noisyFolder [.plain "shop.json"] =
      .ok (.moduleOf "Shop" (.moduleOf "Item" .null)) :=
    load_of_write rfl (by decide +kernel) (by decide +kernel)
  have hnoise : ofRoot.load noisyFolder [.plain "noise.json"] =
      .error (.malformed "ast/noise.json") := by decide +kernel
  have hfatal : (ofRoot.files noisyFolder).findSome? (ofRoot.fatal? noisyFolder) = none := by
    rw [hfiles, List.findSome?_eq_none_iff]
    simp only [List.forall_mem_cons, fatal?_of_ok hcart rfl, fatal?_of_ok hshop rfl,
      fatal?_of_malformed hnoise]
    decide +kernel
  have hlist := ofRoot.list_passes_over_faults noisyFolder hfolder
  simp only [hfatal] at hlist
  obtain ⟨modules, hmodules, hall⟩ := hlist
  rw [hfiles] at hall
  refine ⟨hfolder, hnoise, modules, hmodules, ?_, ?_, ?_⟩
  · exact hall _ (by simp) _ hcart _ (by decide +kernel)
  · exact hall _ (by simp) _ hshop _ (by decide +kernel)
  · exact hall _ (by simp) _ hshop _ (by decide +kernel)

/-- A folder with a proper dump, and one whose tree is a block without statements. -/
def endlessFolder : FileTree :=
  (FileTree.empty.write ["cart.json"] (.file (Dump.write (.moduleOf "Cart" .null)))).write
    ["loop.json"] (.file (Dump.write (.tuple [.text "__block__", .list [], .null])))

/-- One endless file hides the modules of all others: the listing fails, although the other file can
be loaded and the search for its modules ends. -/
theorem list_hidden_by_endless :
    endlessFolder.isFolder ofRoot.folder = true ∧
      ofRoot.files endlessFolder = [[.plain "cart.json"], [.plain "loop.json"]] ∧
      ofRoot.load endlessFolder ["cart.json"] = .ok (.moduleOf "Cart" .null) ∧
      Listing.ofTree none (.moduleOf "Cart" .null) =
        { modules := [("Cart", .moduleOf "Cart" .null)] } ∧
      (ofRoot.list endlessFolder).value = .error .endless := by
  have hfiles : ofRoot.files endlessFolder = [[.plain "cart.json"], [.plain "loop.json"]] :=
    files_eq (by decide +kernel) (by decide +kernel)
  have hfolder : endlessFolder.isFolder ofRoot.folder = true := by decide +kernel
  have hcart : ofRoot.load endlessFolder [.plain "cart.json"] = .ok (.moduleOf "Cart" .null) :=
    load_of_write rfl (by decide +kernel) (by decide +kernel)
  have hloop : ofRoot.load endlessFolder [.plain "loop.json"] =
      .ok (.tuple [.text "__block__", .list [], .null]) :=
    load_of_write rfl (by decide +kernel) (by decide +kernel)
  have hlisting : Listing.ofTree none (.moduleOf "Cart" .null) =
      { modules := [("Cart", .moduleOf "Cart" .null)] } := by decide +kernel
  have hendless : Listing.ofTree none (.tuple [.text "__block__", .list [], .null]) =
      { endless := true } := by decide +kernel
  have hfatal : (ofRoot.files endlessFolder).findSome? (ofRoot.fatal? endlessFolder) =
      some .endless := by
    rw [hfiles, List.findSome?_cons, fatal?_of_ok hcart hlisting, List.findSome?_cons,
      fatal?_of_ok hloop hendless]
    rfl
  refine ⟨hfolder, hfiles, hcart, hlisting, ?_⟩
  rw [ofRoot.list_value endlessFolder hfolder, hfatal]

end Dumps

end CallAtlas
