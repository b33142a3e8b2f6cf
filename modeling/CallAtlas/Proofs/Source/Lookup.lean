import CallAtlas.Proofs.Module.Listed
import CallAtlas.Proofs.Source.Staleness
import CallAtlas.Proofs.Text.Sorted

/-!
What a folder of dumps lists and finds as long as its files stay as they are.  Three loops have a say
in it: the listing keeps the first occurrence of a name, the index keeps the last file that defines a
module, and the search in that file stops at the first definition.  Main statement: a listing that
succeeds has the modules of all dumps, each once, and a look-up gives the first definition in the last
dump that has one, whether the index was made by the listing or is made by the look-up itself.
-/

namespace CallAtlas

/-- What is found under a key stands behind pairs with other keys only. -/
theorem Table.exists_of_find {κ α : Type} [DecidableEq κ] {key : κ} {value : α}
    {entries : List (κ × α)} (hfind : find key entries = some value) :
    ∃ front rest, entries = front ++ (key, value) :: rest ∧ key ∉ front.map Prod.fst := by
  induction entries with
  | nil => contradiction
  | cons head others ih =>
      obtain ⟨k, v⟩ := head
      by_cases hk : k = key
      · subst hk
        obtain rfl : v = value := by simpa [find] using hfind
        exact ⟨[], others, rfl, by simp⟩
      · rw [find, if_neg hk] at hfind
        obtain ⟨front, rest, rfl, hfront⟩ := ih hfind
        refine ⟨(k, v) :: front, rest, rfl, ?_⟩
        simpa [Ne.symm hk] using hfront

namespace Dumps

/-- What a look-up is to give: nothing if no dump defines the module, and otherwise the first
definition in the last dump that has one. -/
inductive Found [Depths] (dumps : Dumps) (files : FileTree) (module : Text) : Option Term → Prop
  | missing : (∀ file ∈ dumps.files files, ¬ dumps.Defines files file module) →
      Found dumps files module none
  | inLast {before after : List Path} {file : Path} {content node : Term}
      {front rest : List (Text × Term)} :
      dumps.files files = before ++ file :: after →
      (∀ later ∈ after, ¬ dumps.Defines files later module) →
      dumps.load files file = .ok content →
      content.modules none = .ok (front ++ (module, node) :: rest) →
      module ∉ front.map Prod.fst → Found dumps files module (some node)

variable {dumps : Dumps} {files : FileTree} {module : Text}

theorem mem_files {file : Path} :
    file ∈ dumps.files files ↔ files.contains (dumps.folder ++ file) = true ∧ file ≠ [] ∧
      isDumpName (file.getLast?.getD "") = true ∧ dumps.isExcluded file = false := by
  have hpresent : (Scene.mk dumps files).present = dumps.files files := rfl
  rw [← hpresent, Scene.mem_present]

theorem pairwise_files (dumps : Dumps) (files : FileTree) :
    (dumps.files files).Pairwise fun first second => namesLe first second = true :=
  List.pairwise_mergeSort namesLe_trans namesLe_total _

theorem Found.eq_none_iff [Depths] {answer : Option Term}
    (hfound : dumps.Found files module answer) :
    answer = none ↔ ∀ file ∈ dumps.files files, ¬ dumps.Defines files file module := by
  cases hfound with
  | missing hnone => simpa using hnone
  | @inLast before after file content node front rest hfiles _ hload hmodules _ =>
      have hdefines : dumps.Defines files file module := by
        refine ⟨content, hload, ?_⟩
        rw [Term.modules_ofTree_of_modules hmodules]
        simp
      have hfile : file ∈ dumps.files files := by simp [hfiles]
      simp only [reduceCtorEq, false_iff]
      exact fun hnone => hnone file hfile hdefines

/-- Behind the last file that defines a module no file does. -/
theorem exists_split_of_definer? [Depths] {file : Path} {content : Term}
    (hdefiner : dumps.definer? files module = some (file, content)) :
    ∃ before after, dumps.files files = before ++ file :: after ∧
      ∀ later ∈ after, ¬ dumps.Defines files later module := by
  obtain ⟨_, behind, ahead, hsplit, hbehind⟩ := List.find?_eq_some_iff_append.mp hdefiner
  have hloaded : dumps.loaded files (dumps.files files) =
      ahead.reverse ++ (file, content) :: behind.reverse := by
    rw [← List.reverse_reverse (dumps.loaded files _), hsplit]
    simp
  obtain ⟨front, back, hfiles, _, hback⟩ := List.filterMap_eq_append_iff.mp hloaded
  obtain ⟨skipped, last, after, rfl, _, hlast, hafter⟩ := List.filterMap_eq_cons_iff.mp hback
  obtain rfl : last = file := by
    obtain ⟨_, _, heq⟩ := Option.map_eq_some_iff.mp hlast
    exact (Prod.mk.inj heq).1
  refine ⟨front ++ skipped, after, by simp [hfiles], ?_⟩
  rintro later hlater ⟨found, hload, hmodule⟩
  have hmem : (later, found) ∈ dumps.loaded files after := mem_loaded.mpr ⟨hlater, hload⟩
  rw [loaded, hafter, List.mem_reverse] at hmem
  have hnot := hbehind (later, found) hmem
  simp [Term.defines, Term.definitions, hmodule] at hnot

section Listed

variable [Depths] {modules : List Text} (hlist : (dumps.list files).value = .ok modules)
include hlist

theorem isFolder_of_list : files.isFolder dumps.folder = true := by
  by_contra hfolder
  simp [list, makeIndex, hfolder] at hlist

theorem findSome?_fatal?_of_list : (dumps.files files).findSome? (dumps.fatal? files) = none := by
  have hvalue := list_value dumps files (isFolder_of_list hlist)
  rw [hlist] at hvalue
  cases hfatal : (dumps.files files).findSome? (dumps.fatal? files) with
  | none => rfl
  | some fault => simp [hfatal] at hvalue

theorem endless_of_list {file : Path} (hfile : file ∈ dumps.files files) {content : Term}
    (hload : dumps.load files file = .ok content) : (Listing.ofTree none content).endless = false := by
  have hnot := List.findSome?_eq_none_iff.mp (findSome?_fatal?_of_list hlist) file hfile
  rw [fatal?_of_ok hload rfl] at hnot
  simpa using hnot

theorem found_definer? (module : Text) :
    dumps.Found files module
      ((dumps.definer? files module).bind (·.2.firstDefinition? module)) := by
  rcases hdefiner : dumps.definer? files module with _ | ⟨file, content⟩
  · apply Found.missing
    rintro file hfile ⟨content, hload, hmodule⟩
    have hmem : (file, content) ∈ (dumps.loaded files (dumps.files files)).reverse :=
      List.mem_reverse.mpr (mem_loaded.mpr ⟨hfile, hload⟩)
    have hnot := List.find?_eq_none.mp hdefiner (file, content) hmem
    simp [Term.defines, Term.definitions, hmodule] at hnot
  · obtain ⟨before, after, hfiles, hlater⟩ := exists_split_of_definer? hdefiner
    obtain ⟨hload, hdefines⟩ := definer?_spec hdefiner
    obtain ⟨node, hnode⟩ := Term.firstDefinition?_of_defines hdefines
    obtain ⟨front, rest, hdefinitions, hfront⟩ := Table.exists_of_find hnode
    have hends := endless_of_list hlist (by simp [hfiles]) hload
    have hmodules : content.modules none = .ok (front ++ (module, node) :: rest) := by
      rw [Term.modules_eq_ok_iff, ← hdefinitions, ← hends]
    rw [Option.bind_some, hnode]
    exact .inLast hfiles hlater hload hmodules hfront

end Listed

/-- A listing that succeeds is exact: it has the modules of the dumps that can be loaded, in order of
their first occurrence, where the dumps are those of the folder that are not left out, in the order of
their path components.  Every look-up then gives the first definition in the last dump that has one,
without an index and right after the listing alike, and gives nothing just if no dump defines the
module. -/
theorem list_and_resolve_exact [Depths] {modules : List Text}
    (hlist : (dumps.list files).value = .ok modules) :
    (∀ file, file ∈ dumps.files files ↔ files.contains (dumps.folder ++ file) = true ∧ file ≠ [] ∧
        isDumpName (file.getLast?.getD "") = true ∧ dumps.isExcluded file = false) ∧
      (dumps.files files).Pairwise (fun first second => namesLe first second = true) ∧
      modules.Nodup ∧
      modules = ((dumps.loaded files (dumps.files files)).flatMap fun found =>
        found.2.definitions.map Prod.fst).eraseDups ∧
      ∀ module, ∃ answer, dumps.Found files module answer ∧
        (resolve { dumps with index := .empty } files module).value = .ok answer ∧
        ((dumps.list files).dumps.resolve files module).value = .ok answer ∧
        (answer = none ↔ ∀ file ∈ dumps.files files, ¬ dumps.Defines files file module) := by
  have hfolder := isFolder_of_list hlist
  have hwhole := findSome?_fatal?_of_list hlist
  have hmodules := list_of_whole hfolder hwhole
  rw [hlist, Except.ok.injEq] at hmodules
  refine ⟨fun _ => mem_files, pairwise_files dumps files, ?_, hmodules, ?_⟩
  · rw [hmodules]
    exact nodup_eraseDups _
  · intro module
    have hfound := found_definer? hlist module
    refine ⟨_, hfound, ?_, resolve_of_listed hfolder hwhole, hfound.eq_none_iff⟩
    -- Without an index no file is known, so the folder is listed before the look-up.
    exact resolve_of_unknown hfolder hwhole rfl

/-- A tree with the module `Shop` behind another one. -/
def shopBehindCart : Term :=
  .tuple [.text "__block__", .list [], .list [.moduleOf "Cart" (.int 2), .moduleOf "Shop" .null]]

/-- A folder in which `Cart` is defined by two dumps, twice by the last of them, and by a file that is
left out; one dump cannot be read. -/
def collidingFolder : FileTree :=
  (((FileTree.empty.write ["a.json"] (.file (Dump.write shopBehindCart))).write
    ["b.json"] (.file (Dump.write cartTwice))).write
    ["noise.json"] (.file "[not json")).write
    ["deps", "z.json"] (.file (Dump.write (.moduleOf "Cart" (.int 3))))

theorem list_and_resolve_colliding :
    (ofRoot.list collidingFolder).value = .ok [.plain "Cart", .plain "Shop"] ∧
      ofRoot.files collidingFolder =
        [[.plain "a.json"], [.plain "b.json"], [.plain "noise.json"]] ∧
      ofRoot.Found collidingFolder "Cart" (some (.moduleOf "Cart" .null)) ∧
      (resolve { ofRoot with index := .empty } collidingFolder "Cart").value =
        .ok (some (.moduleOf "Cart" .null)) ∧
      ((ofRoot.list collidingFolder).dumps.resolve collidingFolder "Cart").value =
        .ok (some (.moduleOf "Cart" .null)) := by
  have hfiles : ofRoot.files collidingFolder =
      [[.plain "a.json"], [.plain "b.json"], [.plain "noise.json"]] :=
    files_eq (by decide +kernel) (by decide +kernel)
  have hfolder : collidingFolder.isFolder ofRoot.folder = true := by decide +kernel
  have hfirst : ofRoot.load collidingFolder [.plain "a.json"] = .ok shopBehindCart :=
    load_of_write rfl (by decide +kernel) (by decide +kernel)
  have hsecond : ofRoot.load collidingFolder [.plain "b.json"] = .ok cartTwice :=
    load_of_write rfl (by decide +kernel) (by decide +kernel)
  have hnoise : ofRoot.load collidingFolder [.plain "noise.json"] =
      .error (.malformed "ast/noise.json") := by decide +kernel
  have hloaded : ofRoot.loaded collidingFolder (ofRoot.files collidingFolder) =
      [([.plain "a.json"], shopBehindCart), ([.plain "b.json"], cartTwice)] := by
    rw [hfiles]
    simp [loaded, hfirst, hsecond, hnoise, Except.toOption]
  have hwhole : (ofRoot.files collidingFolder).findSome? (ofRoot.fatal? collidingFolder) = none := by
    rw [hfiles, List.findSome?_eq_none_iff]
    simp only [List.forall_mem_cons, fatal?_of_ok hfirst rfl, fatal?_of_ok hsecond rfl,
      fatal?_of_malformed hnoise]
    decide +kernel
  have hlist : (ofRoot.list collidingFolder).value = .ok [.plain "Cart", .plain "Shop"] := by
    rw [list_of_whole hfolder hwhole, hloaded]
    decide +kernel
  have hvalue : (resolve { ofRoot with index := .empty } collidingFolder "Cart").value =
      .ok (some (.moduleOf "Cart" .null)) := by
    refine (resolve_of_unknown hfolder hwhole rfl).trans ?_
    rw [definer?, hloaded]
    decide +kernel
  obtain ⟨_, _, _, _, hresolve⟩ := list_and_resolve_exact hlist
  obtain ⟨answer, hfound, hfresh, hlisted, _⟩ := hresolve "Cart"
  obtain rfl := Except.ok.inj (hfresh.symm.trans hvalue)
  exact ⟨hlist, hfiles, hfound, hfresh, hlisted⟩

end Dumps

end CallAtlas
