import CallAtlas.Source.Dumps

/-!
The index of a folder of dumps.  Every file in it could be loaded and defines the modules for which
it stands there.  As long as the files stay as they are, a module that was listed is therefore found
where the index says, and the index is not made again.
-/

namespace CallAtlas

/-- A module that a tree defines is found in it, even if the search for all modules never ends. -/
theorem Term.exists_select {tree : Term} {module : Text}
    (hmodule : module ∈ (Listing.ofTree none tree).modules.map Prod.fst) :
    ∃ node, tree.select module = .ok (some node) := by
  have hfind : Table.find module (Listing.ofTree none tree).modules ≠ none := by
    intro hnone
    exact Table.find_eq_none_iff.mp hnone hmodule
  obtain ⟨node, hnode⟩ := Option.ne_none_iff_exists'.mp hfind
  exact ⟨node, by simp [select, hnode]⟩

namespace Dumps

variable [Depths] (dumps : Dumps) (tree : FileTree)

/-- A file can be loaded and defines a module. -/
def Defines (file : Path) (module : Text) : Prop :=
  ∃ content, dumps.load tree file = .ok content ∧
    module ∈ (Listing.ofTree none content).modules.map Prod.fst

/-- Every module of an index is defined by its file. -/
def IsSound (index : Table Text Path) : Prop :=
  ∀ module file, index.get? module = some file → dumps.Defines tree file module

omit [Depths] in
theorem get?_enter (file : Path) (index : Table Text Path) (modules : List (Text × Term))
    (module : Text) :
    (dumps.enter file index modules).1.get? module =
      if module ∈ modules.map Prod.fst then some file else index.get? module := by
  induction modules generalizing index with
  | nil => rfl
  | cons first rest ih =>
      obtain ⟨name, node⟩ := first
      have hstep : (dumps.enter file index ((name, node) :: rest)).1 =
          (dumps.enter file (index.insert name file) rest).1 := rfl
      rw [hstep, ih, Table.get?_insert, List.map_cons]
      by_cases hrest : module ∈ rest.map Prod.fst
      · rw [if_pos hrest, if_pos (List.mem_cons_of_mem name hrest)]
      · by_cases hname : name = module
        · subst hname
          rw [if_neg hrest, if_pos rfl, if_pos List.mem_cons_self]
        · rw [if_neg hrest, if_neg hname, if_neg]
          simpa [Ne.symm hname] using hrest

variable {dumps tree}

/-- Entering the modules of a file that was loaded keeps an index sound. -/
theorem IsSound.enter {index : Table Text Path} (h : dumps.IsSound tree index) {file : Path}
    {content : Term} (hload : dumps.load tree file = .ok content) :
    dumps.IsSound tree (dumps.enter file index (Listing.ofTree none content).modules).1 := by
  intro module found hfound
  rw [get?_enter] at hfound
  by_cases hmodule : module ∈ (Listing.ofTree none content).modules.map Prod.fst
  · rw [if_pos hmodule] at hfound
    obtain rfl := Option.some.inj hfound
    exact ⟨content, hload, hmodule⟩
  · rw [if_neg hmodule] at hfound
    exact h module found hfound

/-- Entering files one after the other keeps an index sound, if it succeeds at all. -/
theorem IsSound.enterAll {index final : Table Text Path} (h : dumps.IsSound tree index)
    {files : List Path} (hfinal : (dumps.enterAll tree index files).index = .ok final) :
    dumps.IsSound tree final := by
  induction files generalizing index with
  | nil =>
      obtain rfl := Except.ok.inj hfinal
      exact h
  | cons file rest ih =>
      cases hload : dumps.load tree file with
      | error fault =>
          by_cases hreported : fault.isReported = true
          · simp only [Dumps.enterAll, hload, hreported, if_true] at hfinal
            exact ih h hfinal
          · simp [Dumps.enterAll, hload, hreported] at hfinal
      | ok content =>
          by_cases hendless : (Listing.ofTree none content).endless = true
          · simp [Dumps.enterAll, hload, hendless] at hfinal
          · simp only [Dumps.enterAll, hload, hendless] at hfinal
            exact ih (h.enter hload) hfinal

theorem isSound_makeIndex {index : Table Text Path}
    (hindex : (dumps.makeIndex tree).index = .ok index) : dumps.IsSound tree index := by
  have hempty : dumps.IsSound tree .empty := by
    intro module file hfile
    simp at hfile
  by_cases hfolder : tree.isFolder dumps.folder = true
  · rw [makeIndex, if_pos hfolder] at hindex
    exact hempty.enterAll hindex
  · simp [makeIndex, hfolder] at hindex

/-- A listing that succeeds keeps the index it made. -/
theorem exists_index_of_list {modules : List Text}
    (hlist : (dumps.list tree).value = .ok modules) :
    ∃ index, (dumps.makeIndex tree).index = .ok index ∧ modules = index.keys ∧
      (dumps.list tree).dumps = { dumps with index } := by
  unfold list at hlist ⊢
  cases hindex : (dumps.makeIndex tree).index with
  | error fault => simp [hindex] at hlist
  | ok index =>
      simp only [hindex, Except.ok.injEq] at hlist
      exact ⟨index, rfl, hlist.symm, by simp only [hindex]⟩

theorem contains_of_load {file : Path} {content : Term}
    (hload : dumps.load tree file = .ok content) :
    tree.contains (dumps.folder ++ file) = true := by
  cases hentry : tree.get? (dumps.folder ++ file) with
  | none => simp [load, hentry] at hload
  | some entry => simp [FileTree.contains, hentry]

/-- As long as the files stay as they are, a listed module is found, and looking it up changes
nothing. -/
theorem exists_resolve_of_list {modules : List Text} (hlist : (dumps.list tree).value = .ok modules)
    {module : Text} (hmodule : module ∈ modules) :
    ∃ node, (dumps.list tree).dumps.resolve tree module =
      { value := .ok (some node), dumps := (dumps.list tree).dumps } := by
  obtain ⟨index, hindex, rfl, hdumps⟩ := exists_index_of_list hlist
  have hfile : index.get? module ≠ none := by
    rw [ne_eq, Table.get?_eq_none_iff]
    exact not_not_intro hmodule
  obtain ⟨file, hfile⟩ := Option.ne_none_iff_exists'.mp hfile
  obtain ⟨content, hload, hdefined⟩ := isSound_makeIndex hindex module file hfile
  obtain ⟨node, hnode⟩ := Term.exists_select hdefined
  have hknown : knownFile { dumps with index } tree module = some file := by
    rw [knownFile, hfile]
    exact Option.filter_eq_some_iff.mpr ⟨rfl, contains_of_load hload⟩
  have hdefinition : definition { dumps with index } tree file module = .ok (some node) := by
    have hsame : load { dumps with index } tree file = .ok content := hload
    simp only [definition, hsame, hnode]
  refine ⟨node, ?_⟩
  rw [hdumps, resolve, hknown]
  simp only [hdefinition]

end Dumps

end CallAtlas
