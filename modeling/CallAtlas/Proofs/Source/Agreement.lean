import CallAtlas.Proofs.Module.Visits
import CallAtlas.Proofs.Scan.Dumps
import CallAtlas.Proofs.Source.Listing

/-!
The same trees, held in memory and in a folder of dumps.  Both sources list the same modules in the
same order, and both take a module from the last tree that defines it.  Where that tree defines the
module more than once they part: memory holds the last of these definitions, a folder gives the
first.
-/

namespace CallAtlas

namespace Listing

/-- Definitions are triples, never a missing tree. -/
theorem isNull_of_mem_ofTree (parent : Option Text) (tree : Term) :
    ∀ definition ∈ (ofTree parent tree).modules, definition.2.isNull = false := by
  intro definition hmem
  obtain ⟨visit, _, hnode, info, nameNode, options, hpart, _⟩ := exists_visit_of_mem hmem
  rw [hnode, hpart]
  rfl

end Listing

namespace Term

variable (tree : Term) (module : Text)

/-- Whether a tree defines a module. -/
def defines : Bool := decide (module ∈ tree.definitions.map Prod.fst)

/-- The first definition of a module in a tree. -/
def firstDefinition? : Option Term := Table.find module tree.definitions

/-- The last definition of a module in a tree. -/
def lastDefinition? : Option Term := Table.find module tree.definitions.reverse

/-- The last of some trees that defines a module. -/
def definer? (trees : List Term) : Option Term := trees.reverse.find? (·.defines module)

variable {tree module}

theorem firstDefinition?_of_defines (hdefines : tree.defines module = true) :
    ∃ node, tree.firstDefinition? module = some node := by
  apply Option.ne_none_iff_exists'.mp
  intro hnone
  exact Table.find_eq_none_iff.mp hnone (of_decide_eq_true hdefines)

theorem lastDefinition?_eq_none_iff :
    tree.lastDefinition? module = none ↔ tree.defines module = false := by
  rw [lastDefinition?, defines, decide_eq_false_iff_not]
  refine Table.find_eq_none_iff.trans ?_
  rw [List.map_reverse, List.mem_reverse]

theorem firstDefinition?_eq_lastDefinition?
    (hcount : (tree.definitions.map Prod.fst).count module ≤ 1) :
    tree.firstDefinition? module = tree.lastDefinition? module :=
  (Table.find_reverse_of_count_le_one hcount).symm

theorem isNull_lastDefinition? {node : Term} (hnode : tree.lastDefinition? module = some node) :
    node.isNull = false := by
  have hmem := List.mem_reverse.mp (Table.mem_of_find hnode)
  exact Listing.isNull_of_mem_ofTree none tree (module, node) hmem

theorem definer?_concat (trees : List Term) :
    definer? module (trees ++ [tree]) =
      if tree.defines module then some tree else definer? module trees := by
  rw [definer?, List.reverse_append, List.reverse_singleton, List.singleton_append,
    List.find?_cons]
  cases tree.defines module <;> rfl

theorem mem_of_definer? {trees : List Term} (hdefiner : definer? module trees = some tree) :
    tree ∈ trees :=
  List.mem_reverse.mp (List.mem_of_find?_eq_some hdefiner)

end Term

namespace Memory

/-- Memory after some trees were added one after the other. -/
def ofTrees (trees : List Term) : Memory := trees.foldl add empty

theorem trees_add (memory : Memory) (tree : Term) :
    (memory.add tree).trees = memory.trees.insertAll tree.definitions := by
  unfold add Term.definitions
  induction (Listing.ofTree none tree).modules generalizing memory with
  | nil => rfl
  | cons first rest ih => exact ih (memory.set first.1 first.2)

theorem ofTrees_concat (trees : List Term) (tree : Term) :
    ofTrees (trees ++ [tree]) = (ofTrees trees).add tree := by
  rw [ofTrees, List.foldl_append]
  rfl

/-- The modules of all trees are listed, in order of their first occurrence. -/
theorem list_ofTrees (trees : List Term) :
    (ofTrees trees).list =
      (trees.flatMap fun tree => tree.definitions.map Prod.fst).eraseDups := by
  induction trees using List.reverseRecOn with
  | nil => rfl
  | append_singleton trees tree ih =>
      rw [ofTrees_concat, list, trees_add, Table.keys_insertAll ih, List.flatMap_append,
        List.flatMap_singleton]

/-- A module has its last definition in the last tree that defines it. -/
theorem get?_ofTrees (trees : List Term) (module : Text) :
    (ofTrees trees).trees.get? module =
      (Term.definer? module trees).bind (·.lastDefinition? module) := by
  induction trees using List.reverseRecOn with
  | nil => rfl
  | append_singleton trees tree ih =>
      rw [ofTrees_concat, trees_add, Table.get?_insertAll, ih, Term.definer?_concat]
      change (tree.lastDefinition? module).or _ = _
      cases hlast : tree.lastDefinition? module with
      | none => simp [Term.lastDefinition?_eq_none_iff.mp hlast]
      | some node =>
          have hdefines : tree.defines module = true := by
            rw [← Bool.not_eq_false, ← Term.lastDefinition?_eq_none_iff, hlast]
            simp
          simp [hdefines, hlast]

theorem resolve_ofTrees (trees : List Term) (module : Text) :
    (ofTrees trees).resolve module =
      (Term.definer? module trees).bind (·.lastDefinition? module) := by
  rw [resolve, get?_ofTrees]
  cases hnode : (Term.definer? module trees).bind (·.lastDefinition? module) with
  | none => rfl
  | some node =>
      obtain ⟨tree, _, hlast⟩ := Option.bind_eq_some_iff.mp hnode
      simp [Term.isNull_lastDefinition? hlast]

end Memory

namespace Dumps

variable (dumps : Dumps) (files : FileTree) (module : Text)

/-- The last file that can be loaded and defines a module, with its tree. -/
def definer? [Depths] : Option (Path × Term) :=
  (dumps.loaded files (dumps.files files)).reverse.find? (·.2.defines module)

theorem get?_entered (loaded : List (Path × Term)) :
    (dumps.entered .empty loaded).get? module =
      (loaded.reverse.find? (·.2.defines module)).map Prod.fst := by
  induction loaded using List.reverseRecOn with
  | nil => rfl
  | append_singleton loaded found ih =>
      have hstep : dumps.entered .empty (loaded ++ [found]) =
          (dumps.enter found.1 (dumps.entered .empty loaded) found.2.definitions).1 := by
        rw [entered, List.foldl_append]
        rfl
      rw [hstep, get?_enter, ih, List.reverse_append, List.reverse_singleton,
        List.singleton_append, List.find?_cons]
      by_cases hmodule : module ∈ found.2.definitions.map Prod.fst <;>
        simp [Term.defines, hmodule]

variable [Depths] {dumps files module}

theorem definer?_spec {file : Path} {content : Term}
    (hdefiner : dumps.definer? files module = some (file, content)) :
    dumps.load files file = .ok content ∧ content.defines module = true := by
  have hmem := List.mem_reverse.mp (List.mem_of_find?_eq_some hdefiner)
  have hdefines : (file, content).2.defines module = true := by
    simpa using List.find?_some hdefiner
  exact ⟨(mem_loaded.mp hmem).2, hdefines⟩

/-- A file that defines a module gives the first definition in it. -/
theorem definition_of_defines {file : Path} {content : Term}
    (hload : dumps.load files file = .ok content) (hdefines : content.defines module = true) :
    dumps.definition files file module = .ok (content.firstDefinition? module) := by
  obtain ⟨node, hnode⟩ := Term.firstDefinition?_of_defines hdefines
  have hfind : Table.find module (Listing.ofTree none content).modules = some node := hnode
  simp only [definition, hload, Term.select, hfind, hnode]

section Whole

variable (hfolder : files.isFolder dumps.folder = true)
  (hwhole : (dumps.files files).findSome? (dumps.fatal? files) = none)
include hfolder hwhole

theorem makeIndex_of_whole :
    (dumps.makeIndex files).index =
      .ok (dumps.entered .empty (dumps.loaded files (dumps.files files))) := by
  rw [makeIndex, if_pos hfolder, enterAll_index, hwhole]

theorem list_of_whole :
    (dumps.list files).value = .ok ((dumps.loaded files (dumps.files files)).flatMap
      fun found => found.2.definitions.map Prod.fst).eraseDups := by
  rw [list_value dumps files hfolder, hwhole]

/-- Without a known file a module is taken from the last file that defines it. -/
theorem resolve_of_unknown (hknown : dumps.knownFile files module = none) :
    (dumps.resolve files module).value =
      .ok ((dumps.definer? files module).bind (·.2.firstDefinition? module)) := by
  have hget := dumps.get?_entered module (dumps.loaded files (dumps.files files))
  change _ = (dumps.definer? files module).map Prod.fst at hget
  have hindex := makeIndex_of_whole hfolder hwhole
  simp only [resolve, hknown, list, hindex, hget]
  cases hdefiner : dumps.definer? files module with
  | none => rfl
  | some found =>
      obtain ⟨hload, hdefines⟩ := definer?_spec hdefiner
      exact definition_of_defines hload hdefines

/-- After a listing modules are taken from the same files. -/
theorem resolve_of_listed :
    ((dumps.list files).dumps.resolve files module).value =
      .ok ((dumps.definer? files module).bind (·.2.firstDefinition? module)) := by
  obtain ⟨index, hindex, _, hdumps⟩ := exists_index_of_list (list_of_whole hfolder hwhole)
  obtain rfl := Except.ok.inj ((makeIndex_of_whole hfolder hwhole).symm.trans hindex)
  rw [hdumps]
  cases hknown : knownFile { dumps with
      index := dumps.entered .empty (dumps.loaded files (dumps.files files)) } files module with
  | none => exact resolve_of_unknown hfolder hwhole hknown
  | some file =>
      obtain ⟨hfile, _⟩ := Option.filter_eq_some_iff.mp hknown
      rw [get?_entered] at hfile
      obtain ⟨⟨_, content⟩, hdefiner, rfl⟩ := Option.map_eq_some_iff.mp hfile
      obtain ⟨hload, hdefines⟩ := definer?_spec hdefiner
      have hbind : (dumps.definer? files module).bind (·.2.firstDefinition? module) =
          content.firstDefinition? module := by
        rw [definer?, hdefiner]
        rfl
      rw [hbind, resolve, hknown]
      exact definition_of_defines hload hdefines

end Whole

section Held

variable {trees : List Term}

theorem map_snd_loaded {paths : List Path}
    (hpaths : paths.map (dumps.load files) = trees.map .ok) :
    (dumps.loaded files paths).map Prod.snd = trees := by
  induction paths generalizing trees with
  | nil =>
      rw [List.map_nil, eq_comm, List.map_eq_nil_iff] at hpaths
      rw [hpaths]
      rfl
  | cons path rest ih =>
      cases trees with
      | nil => simp at hpaths
      | cons tree trees =>
          obtain ⟨hload, hrest⟩ := List.cons.inj hpaths
          have hkeep : dumps.loaded files (path :: rest) =
              (path, tree) :: dumps.loaded files rest := by
            simp [loaded, hload, Except.toOption]
          rw [hkeep, List.map_cons, ih hrest]

variable (hheld : (dumps.files files).map (dumps.load files) = trees.map .ok)
include hheld

theorem findSome?_fatal?_of_held
    (hends : ∀ tree ∈ trees, (Listing.ofTree none tree).endless = false) :
    (dumps.files files).findSome? (dumps.fatal? files) = none := by
  rw [List.findSome?_eq_none_iff]
  intro file hfile
  have hmem : dumps.load files file ∈ trees.map .ok := by
    rw [← hheld]
    exact List.mem_map_of_mem hfile
  obtain ⟨tree, htree, hload⟩ := List.mem_map.mp hmem
  rw [fatal?_of_ok hload.symm rfl, hends tree htree]
  rfl

theorem bind_definer?_of_held (module : Text) :
    (dumps.definer? files module).bind (·.2.firstDefinition? module) =
      (Term.definer? module trees).bind (·.firstDefinition? module) := by
  rw [Term.definer?, ← map_snd_loaded hheld, ← List.map_reverse, List.find?_map,
    Option.bind_map]
  rfl

variable (hfolder : files.isFolder dumps.folder = true)
  (hends : ∀ tree ∈ trees, (Listing.ofTree none tree).endless = false)
include hfolder hends

theorem list_of_held : (dumps.list files).value = .ok (Memory.ofTrees trees).list := by
  rw [list_of_whole hfolder (findSome?_fatal?_of_held hheld hends), Memory.list_ofTrees,
    ← map_snd_loaded hheld, List.flatMap_map]

theorem resolve_of_held_fresh (hfresh : dumps.index = .empty) (module : Text) :
    (dumps.resolve files module).value =
      .ok ((Term.definer? module trees).bind (·.firstDefinition? module)) := by
  have hunknown : dumps.knownFile files module = none := by
    rw [knownFile, hfresh]
    rfl
  rw [resolve_of_unknown hfolder (findSome?_fatal?_of_held hheld hends) hunknown,
    bind_definer?_of_held hheld]

theorem resolve_of_held_listed (module : Text) :
    ((dumps.list files).dumps.resolve files module).value =
      .ok ((Term.definer? module trees).bind (·.firstDefinition? module)) := by
  rw [resolve_of_listed hfolder (findSome?_fatal?_of_held hheld hends),
    bind_definer?_of_held hheld]

end Held

end Dumps

namespace Session

/-- A session on trees in memory, with anything stored. -/
def onMemory (settings : Settings) (memory : Memory) (store : Store) : Session :=
  { settings, source := .memory memory, store }

/-- A rescan depends only on what its source lists and finds. -/
theorem rescan_onDumps_eq_onMemory [Depths] {dumps : Dumps} {files : FileTree} {memory : Memory}
    (hlist : (dumps.list files).value = .ok memory.list)
    (hlookup : dumps.lookup files = memory.lookup) (settings : Settings) (store : Store) :
    ((onDumps settings dumps store).rescan files).value =
        ((onMemory settings memory store).rescan files).value ∧
      ((onDumps settings dumps store).rescan files).session.store =
        ((onMemory settings memory store).rescan files).session.store := by
  have hscan : store.rescan memory.list (fun module =>
      ((Source.dumps (dumps.list files).dumps).resolve files module).value) =
        store.rescan memory.list memory.lookup := by
    rw [← hlookup]
    rfl
  simp only [rescan, onDumps, onMemory, Source.list, hlist, hscan]
  exact ⟨rfl, rfl⟩

end Session

namespace Dumps

variable {dumps : Dumps} {files : FileTree} {trees : List Term}

/-- Trees in memory and the same trees in a folder of dumps have the same modules, in the same
order.  Each source has a definition from the last tree that defines the module: memory has the last
one in it, the folder the first one, whether it was listed before or not.  These are the same if no
tree defines the module twice.  If they are the same for every module, then rescans give the same
statistics and leave the same store. -/
theorem agrees_with_memory [Depths] (hfolder : files.isFolder dumps.folder = true)
    (hfresh : dumps.index = .empty)
    (hheld : (dumps.files files).map (dumps.load files) = trees.map .ok)
    (hends : ∀ tree ∈ trees, (Listing.ofTree none tree).endless = false) :
    (dumps.list files).value = .ok (Memory.ofTrees trees).list ∧
      (∀ module,
        (Memory.ofTrees trees).resolve module =
            (Term.definer? module trees).bind (·.lastDefinition? module) ∧
          (dumps.resolve files module).value =
            .ok ((Term.definer? module trees).bind (·.firstDefinition? module)) ∧
          ((dumps.list files).dumps.resolve files module).value =
            .ok ((Term.definer? module trees).bind (·.firstDefinition? module))) ∧
      (∀ module, (∀ tree ∈ trees, (tree.definitions.map Prod.fst).count module ≤ 1) →
        (dumps.resolve files module).value = .ok ((Memory.ofTrees trees).resolve module) ∧
          ((dumps.list files).dumps.resolve files module).value =
            .ok ((Memory.ofTrees trees).resolve module)) ∧
      ((∀ module tree, Term.definer? module trees = some tree →
          tree.firstDefinition? module = tree.lastDefinition? module) →
        ∀ settings store,
          ((Session.onDumps settings dumps store).rescan files).value =
              ((Session.onMemory settings (.ofTrees trees) store).rescan files).value ∧
            ((Session.onDumps settings dumps store).rescan files).session.store =
              ((Session.onMemory settings (.ofTrees trees) store).rescan files).session.store) := by
  have hunlisted := resolve_of_held_fresh hheld hfolder hends hfresh
  have hlisted := resolve_of_held_listed hheld hfolder hends
  refine ⟨list_of_held hheld hfolder hends, ?_, ?_, ?_⟩
  · intro module
    exact ⟨Memory.resolve_ofTrees trees module, hunlisted module, hlisted module⟩
  · intro module honce
    have hsame : (Term.definer? module trees).bind (·.firstDefinition? module) =
        (Memory.ofTrees trees).resolve module := by
      rw [Memory.resolve_ofTrees]
      apply Option.bind_congr
      intro tree hdefiner
      exact Term.firstDefinition?_eq_lastDefinition? (honce tree (Term.mem_of_definer? hdefiner))
    exact ⟨(hunlisted module).trans (congrArg _ hsame), (hlisted module).trans (congrArg _ hsame)⟩
  · intro hsame settings store
    have hlookup : dumps.lookup files = (Memory.ofTrees trees).lookup := by
      funext module
      rw [lookup, hlisted, Memory.lookup, Memory.resolve_ofTrees]
      cases hdefiner : Term.definer? module trees with
      | none => rfl
      | some tree => exact congrArg Except.ok (hsame module tree hdefiner)
    exact Session.rescan_onDumps_eq_onMemory (list_of_held hheld hfolder hends) hlookup
      settings store

/-- A tree with two modules. -/
def cartAndShop : Term :=
  .tuple [.text "__block__", .list [], .list [.moduleOf "Cart" .null, .moduleOf "Shop" .null]]

/-- A folder with two dumps that both define the module `Cart`. -/
def sharingFolder : FileTree :=
  (FileTree.empty.write ["a.json"] (.file (Dump.write cartAndShop))).write
    ["b.json"] (.file (Dump.write (.moduleOf "Cart" (.int 1))))

/-- The two trees in memory. -/
def sharingMemory : Memory := .ofTrees [cartAndShop, .moduleOf "Cart" (.int 1)]

theorem agrees_with_memory_sharing :
    sharingFolder.isFolder ofRoot.folder = true ∧ ofRoot.index = .empty ∧
      (ofRoot.files sharingFolder).map (ofRoot.load sharingFolder) =
        [.ok cartAndShop, .ok (.moduleOf "Cart" (.int 1))] ∧
      (ofRoot.list sharingFolder).value = .ok [.plain "Cart", .plain "Shop"] ∧
      sharingMemory.list = [.plain "Cart", .plain "Shop"] ∧
      (ofRoot.resolve sharingFolder "Cart").value = .ok (some (.moduleOf "Cart" (.int 1))) ∧
      sharingMemory.resolve "Cart" = some (.moduleOf "Cart" (.int 1)) ∧
      ((Session.onDumps {} ofRoot .empty).rescan sharingFolder).session.store =
        ((Session.onMemory {} sharingMemory .empty).rescan sharingFolder).session.store := by
  have hfiles : ofRoot.files sharingFolder = [[.plain "a.json"], [.plain "b.json"]] :=
    files_eq (by decide +kernel) (by decide +kernel)
  have hfolder : sharingFolder.isFolder ofRoot.folder = true := by decide +kernel
  have hfirst : ofRoot.load sharingFolder [.plain "a.json"] = .ok cartAndShop :=
    load_of_write rfl (by decide +kernel) (by decide +kernel)
  have hsecond : ofRoot.load sharingFolder [.plain "b.json"] = .ok (.moduleOf "Cart" (.int 1)) :=
    load_of_write rfl (by decide +kernel) (by decide +kernel)
  have hheld : (ofRoot.files sharingFolder).map (ofRoot.load sharingFolder) =
      [cartAndShop, .moduleOf "Cart" (.int 1)].map .ok := by
    rw [hfiles, List.map_cons, List.map_singleton, hfirst, hsecond]
    rfl
  have hnodup : ∀ tree ∈ [cartAndShop, .moduleOf "Cart" (.int 1)],
      (tree.definitions.map Prod.fst).Nodup := by decide +kernel
  have hnames : sharingMemory.list = [.plain "Cart", .plain "Shop"] := by decide +kernel
  obtain ⟨hlist, hresolve, _, hrescan⟩ := agrees_with_memory hfolder rfl hheld (by decide +kernel)
  obtain ⟨hmemory, hfresh, _⟩ := hresolve "Cart"
  refine ⟨hfolder, rfl, hheld, hlist.trans (congrArg Except.ok hnames), hnames, ?_, ?_, ?_⟩
  · rw [hfresh]
    decide +kernel
  · rw [sharingMemory, hmemory]
    decide +kernel
  · refine (hrescan ?_ {} .empty).2
    intro module tree hdefiner
    have htree := hnodup tree (Term.mem_of_definer? hdefiner)
    exact Term.firstDefinition?_eq_lastDefinition? (List.nodup_iff_count_le_one.mp htree module)

/-- A tree that defines one module twice. -/
def cartTwice : Term :=
  .tuple [.text "__block__", .list [], .list [.moduleOf "Cart" .null, .moduleOf "Cart" (.int 1)]]

/-- A folder with this tree as its only dump. -/
def repeatingFolder : FileTree :=
  FileTree.empty.write ["cart.json"] (.file (Dump.write cartTwice))

/-- Of a module that one tree defines twice, memory has the second definition and a folder of dumps
the first. -/
theorem resolve_differs_from_memory :
    (ofRoot.files repeatingFolder).map (ofRoot.load repeatingFolder) = [.ok cartTwice] ∧
      (Listing.ofTree none cartTwice).endless = false ∧
      (Memory.ofTrees [cartTwice]).resolve "Cart" = some (.moduleOf "Cart" (.int 1)) ∧
      (ofRoot.resolve repeatingFolder "Cart").value = .ok (some (.moduleOf "Cart" .null)) := by
  have hfiles : ofRoot.files repeatingFolder = [[.plain "cart.json"]] :=
    files_eq (by decide +kernel) (by decide +kernel)
  have hfolder : repeatingFolder.isFolder ofRoot.folder = true := by decide +kernel
  have hload : ofRoot.load repeatingFolder [.plain "cart.json"] = .ok cartTwice :=
    load_of_write rfl (by decide +kernel) (by decide +kernel)
  have hheld : (ofRoot.files repeatingFolder).map (ofRoot.load repeatingFolder) =
      [cartTwice].map .ok := by
    rw [hfiles, List.map_singleton, hload]
    rfl
  refine ⟨hheld, by decide +kernel, ?_, ?_⟩
  · rw [Memory.resolve_ofTrees]
    decide +kernel
  · rw [resolve_of_held_fresh hheld hfolder (by decide +kernel) rfl]
    decide +kernel

end Dumps

end CallAtlas
