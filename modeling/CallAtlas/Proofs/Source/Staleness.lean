import CallAtlas.Proofs.Source.Agreement

/-!
Looking modules up while files change.  Files are written, rewritten and deleted, and from time to time
the folder is listed or a module is looked up; the index stays as it was at the last listing.

Main statement: when every dump can be read, a look-up gives a definition only from a dump that is
there now and has it.  It misses a module that some dump defines just if the index has a file for the
module that is still there and does not define it any more; then the folder is not listed again.
-/

namespace CallAtlas

namespace Path

theorem below?_eq_some_iff {folder path rest : Path} :
    folder.below? path = some rest ↔ path = folder ++ rest := by
  induction folder generalizing path with
  | nil => simp [below?]
  | cons part folder ih =>
      cases path with
      | nil => simp [below?]
      | cons first path =>
          by_cases hfirst : part = first
          · subst hfirst
            simp [below?, ih]
          · simp [below?, hfirst, Ne.symm hfirst]

end Path

theorem FileTree.mem_pathsIn {files : FileTree} {folder path : Path} :
    path ∈ files.pathsIn folder ↔ path ≠ [] ∧ files.contains (folder ++ path) = true := by
  have hcontains (hpath : path ≠ []) :
      files.contains (folder ++ path) = true ↔ folder ++ path ∈ files.entries.keys := by
    rw [contains, get?, if_neg (by simp [hpath]), Option.isSome_iff_ne_none, ne_eq,
      Table.get?_eq_none_iff, not_not]
  simp only [pathsIn, List.mem_filter, List.mem_filterMap, Path.below?_eq_some_iff]
  constructor
  · rintro ⟨⟨_, hkey, rfl⟩, hpath⟩
    have hpath : path ≠ [] := by simpa using hpath
    exact ⟨hpath, (hcontains hpath).mpr hkey⟩
  · rintro ⟨hpath, hthere⟩
    exact ⟨⟨_, (hcontains hpath).mp hthere, rfl⟩, by simpa using hpath⟩

/-- A folder of dumps among files that others may change. -/
structure Scene where
  dumps : Dumps
  files : FileTree

namespace Scene

/-- Something that is done to the files or with the dumps. -/
inductive Action where
  | write (path : Path) (entry : Entry)
  | delete (path : Path)
  | list
  | resolve (module : Text)

def step [Depths] (scene : Scene) : Action → Scene
  | .write path entry => { scene with files := scene.files.write path entry }
  | .delete path => { scene with files := scene.files.delete path }
  | .list => { scene with dumps := (scene.dumps.list scene.files).dumps }
  | .resolve module => { scene with dumps := (scene.dumps.resolve scene.files module).dumps }

def after [Depths] (scene : Scene) (actions : List Action) : Scene := actions.foldl step scene

/-- The dumps that are there. -/
def present (scene : Scene) : List Path := scene.dumps.files scene.files

/-- A file can be loaded and defines a module. -/
def Defines [Depths] (scene : Scene) (file : Path) (module : Text) : Prop :=
  scene.dumps.Defines scene.files file module

/-- The folder is there, every dump in it can be loaded, and the search for its modules ends. -/
def IsReadable [Depths] (scene : Scene) : Prop :=
  scene.files.isFolder scene.dumps.folder = true ∧
    ∀ file ∈ scene.present, ∃ content, scene.dumps.load scene.files file = .ok content ∧
      (Listing.ofTree none content).endless = false

variable {scene : Scene}

theorem after_concat [Depths] (scene : Scene) (actions : List Action) (last : Action) :
    scene.after (actions ++ [last]) = (scene.after actions).step last := by
  rw [after, List.foldl_append]
  rfl

theorem mem_present {file : Path} :
    file ∈ scene.present ↔ scene.files.contains (scene.dumps.folder ++ file) = true ∧ file ≠ [] ∧
      Dumps.isDumpName (file.getLast?.getD "") = true ∧ scene.dumps.isExcluded file = false := by
  rw [present, Dumps.files, List.mem_mergeSort, List.mem_filter, FileTree.mem_pathsIn]
  simp only [Bool.and_eq_true, Bool.not_eq_true']
  tauto

section Steps

variable [Depths]

theorem list_dumps_of_ok {dumps : Dumps} {files : FileTree} {index : Table Text Path}
    (hindex : (dumps.makeIndex files).index = .ok index) :
    (dumps.list files).dumps = { dumps with index } := by
  simp only [Dumps.list, hindex]

theorem list_dumps (dumps : Dumps) (files : FileTree) :
    (dumps.list files).dumps = dumps ∨
      ∃ index, (dumps.makeIndex files).index = .ok index ∧
        (dumps.list files).dumps = { dumps with index } := by
  cases hindex : (dumps.makeIndex files).index with
  | error fault =>
      left
      simp only [Dumps.list, hindex]
  | ok index => exact .inr ⟨index, rfl, list_dumps_of_ok hindex⟩

/-- An action leaves the dumps as they are, or gives them the index of the folder as it is now. -/
theorem step_dumps (scene : Scene) (action : Action) :
    (scene.step action).dumps = scene.dumps ∨
      ∃ index, (scene.dumps.makeIndex scene.files).index = .ok index ∧
        (scene.step action).dumps = { scene.dumps with index } := by
  cases action with
  | write path entry => exact .inl rfl
  | delete path => exact .inl rfl
  | list => exact list_dumps scene.dumps scene.files
  | resolve module =>
      have hlist := list_dumps scene.dumps scene.files
      simp only [step, Dumps.resolve]
      split
      · exact .inl rfl
      · split
        · exact hlist
        · split
          · exact hlist
          · exact hlist

/-- An index has for each module a dump of the folder that defines it. -/
theorem mem_files_of_makeIndex {dumps : Dumps} {files : FileTree} {index : Table Text Path}
    (hindex : (dumps.makeIndex files).index = .ok index) {module : Text} {file : Path}
    (hfile : index.get? module = some file) :
    file ∈ dumps.files files ∧ dumps.Defines files file module := by
  refine ⟨?_, Dumps.isSound_makeIndex hindex module file hfile⟩
  unfold Dumps.makeIndex at hindex
  split at hindex
  · rw [Dumps.enterAll_index] at hindex
    split at hindex
    · contradiction
    · obtain rfl := Except.ok.inj hindex
      rw [Dumps.get?_entered] at hfile
      obtain ⟨found, hfound, rfl⟩ := Option.map_eq_some_iff.mp hfile
      have hmem := List.mem_reverse.mp (List.mem_of_find?_eq_some hfound)
      exact (Dumps.mem_loaded.mp hmem).1
  · contradiction

/-- After any history nothing but the index of the dumps has changed, and each file in it was there
and defined its module at some moment of the history. -/
theorem index_after (hfresh : scene.dumps.index = .empty) (actions : List Action) :
    ∃ index, (scene.after actions).dumps = { scene.dumps with index } ∧
      ∀ module file, index.get? module = some file →
        ∃ before later, actions = before ++ later ∧
          file ∈ (scene.after before).present ∧ (scene.after before).Defines file module := by
  induction actions using List.reverseRecOn with
  | nil =>
      refine ⟨.empty, ?_, ?_⟩
      · rw [← hfresh]
        rfl
      · intro module file hfile
        contradiction
  | append_singleton actions last ih =>
      obtain ⟨index, hdumps, hindex⟩ := ih
      rw [after_concat]
      rcases step_dumps (scene.after actions) last with hsame | ⟨fresh, hfresh, hnew⟩
      · refine ⟨index, hsame.trans hdumps, ?_⟩
        intro module file hfile
        obtain ⟨before, later, rfl, hmem, hdefines⟩ := hindex module file hfile
        exact ⟨before, later ++ [last], by simp, hmem, hdefines⟩
      · refine ⟨fresh, by rw [hnew, hdumps], ?_⟩
        intro module file hfile
        obtain ⟨hmem, hdefines⟩ := mem_files_of_makeIndex hfresh hfile
        exact ⟨actions, [last], rfl, hmem, hdefines⟩

end Steps

section Known

variable [Depths]

/-- A known file is a dump that is there now, and it defined the module at some moment before. -/
theorem known_after {actions : List Action} {current : Scene} (hfresh : scene.dumps.index = .empty)
    (hcurrent : scene.after actions = current) {module : Text} {known : Path}
    (hknown : current.dumps.knownFile current.files module = some known) :
    known ∈ current.present ∧ ∃ before later, actions = before ++ later ∧
      known ∈ (scene.after before).present ∧ (scene.after before).Defines known module := by
  subst hcurrent
  obtain ⟨index, hdumps, hindex⟩ := index_after hfresh actions
  obtain ⟨hget, hthere⟩ := Option.filter_eq_some_iff.mp hknown
  rw [hdumps] at hget
  obtain ⟨before, later, hactions, hmem, hdefines⟩ := hindex module known hget
  refine ⟨?_, before, later, hactions, hmem, hdefines⟩
  obtain ⟨earlier, hearlier, _⟩ := index_after hfresh before
  obtain ⟨_, hproper⟩ := mem_present.mp hmem
  rw [hearlier] at hproper
  refine mem_present.mpr ⟨hthere, ?_⟩
  rw [hdumps]
  exact hproper

end Known

section Lookup

variable [Depths]

theorem defines_iff {file : Path} {content : Term} {module : Text}
    (hload : scene.dumps.load scene.files file = .ok content) :
    scene.Defines file module ↔ (content.firstDefinition? module).isSome = true := by
  rw [Option.isSome_iff_exists]
  constructor
  · rintro ⟨found, hfound, hmodule⟩
    obtain rfl := Except.ok.inj (hload.symm.trans hfound)
    exact Term.firstDefinition?_of_defines (decide_eq_true hmodule)
  · rintro ⟨node, hnode⟩
    exact ⟨content, hload, List.mem_map_of_mem (Table.mem_of_find hnode)⟩

/-- Where the search ends, looking into a file gives the first definition, or nothing. -/
theorem definition_of_ends {file : Path} {content : Term}
    (hload : scene.dumps.load scene.files file = .ok content)
    (hends : (Listing.ofTree none content).endless = false) (module : Text) :
    scene.dumps.definition scene.files file module = .ok (content.firstDefinition? module) := by
  have hselect : content.select module = .ok (content.firstDefinition? module) := by
    unfold Term.firstDefinition? Term.definitions
    simp only [Term.select, hends]
    cases Table.find module (Listing.ofTree none content).modules with
    | some node => rfl
    | none => rfl
  simp only [Dumps.definition, hload, hselect]

theorem IsReadable.findSome?_fatal? (hreadable : scene.IsReadable) :
    scene.present.findSome? (scene.dumps.fatal? scene.files) = none := by
  rw [List.findSome?_eq_none_iff]
  intro file hfile
  obtain ⟨content, hload, hends⟩ := hreadable.2 file hfile
  rw [Dumps.fatal?_of_ok hload rfl, hends]
  rfl

/-- With a known file that is there, only this file is looked into. -/
theorem IsReadable.resolve_of_known (hreadable : scene.IsReadable) {module : Text} {known : Path}
    (hknown : scene.dumps.knownFile scene.files module = some known) (hmem : known ∈ scene.present) :
    ∃ content, scene.dumps.load scene.files known = .ok content ∧
      (scene.dumps.resolve scene.files module).value = .ok (content.firstDefinition? module) := by
  obtain ⟨content, hload, hends⟩ := hreadable.2 known hmem
  refine ⟨content, hload, ?_⟩
  simp only [Dumps.resolve, hknown]
  exact definition_of_ends hload hends module

/-- Without a known file, a module is found just if a dump defines it. -/
theorem IsReadable.resolve_of_unknown (hreadable : scene.IsReadable) {module : Text}
    (hknown : scene.dumps.knownFile scene.files module = none) :
    ((∀ file ∈ scene.present, ¬ scene.Defines file module) ∧
        (scene.dumps.resolve scene.files module).value = .ok none) ∨
      ∃ file ∈ scene.present, ∃ content, scene.dumps.load scene.files file = .ok content ∧
        scene.Defines file module ∧
        (scene.dumps.resolve scene.files module).value = .ok (content.firstDefinition? module) := by
  have hresolve := Dumps.resolve_of_unknown hreadable.1 hreadable.findSome?_fatal? hknown
  cases hdefiner : scene.dumps.definer? scene.files module with
  | none =>
      rw [hdefiner] at hresolve
      refine .inl ⟨?_, hresolve⟩
      rintro file hfile ⟨content, hload, hmodule⟩
      have hmem := List.mem_reverse.mpr (Dumps.mem_loaded.mpr ⟨hfile, hload⟩)
      exact List.find?_eq_none.mp hdefiner _ hmem (decide_eq_true hmodule)
  | some found =>
      obtain ⟨file, content⟩ := found
      rw [hdefiner] at hresolve
      obtain ⟨hload, hdefines⟩ := Dumps.definer?_spec hdefiner
      have hmem := List.mem_reverse.mp (List.mem_of_find?_eq_some hdefiner)
      exact .inr ⟨file, (Dumps.mem_loaded.mp hmem).1, content, hload,
        ⟨content, hload, of_decide_eq_true hdefines⟩, hresolve⟩

end Lookup

/-- After any history that began without an index, a module is found just if a dump that is there
defines it and its known file, if there is one, does so too.  What is found is a definition in a dump that
is there; and a known file is a dump that is there, and that did define the module at some moment
before. -/
theorem resolve_misses_at_known_only [Depths] {actions : List Action} {current : Scene}
    (hfresh : scene.dumps.index = .empty) (hcurrent : scene.after actions = current)
    (hreadable : current.IsReadable) (module : Text) :
    ∃ found, (current.dumps.resolve current.files module).value = .ok found ∧
      (found.isSome = true ↔ (∃ file ∈ current.present, current.Defines file module) ∧
        ∀ known, current.dumps.knownFile current.files module = some known →
          current.Defines known module) ∧
      (∀ node, found = some node → ∃ file ∈ current.present, ∃ content,
        current.dumps.load current.files file = .ok content ∧ (module, node) ∈ content.definitions) ∧
      ∀ known, current.dumps.knownFile current.files module = some known →
        known ∈ current.present ∧ ∃ before later, actions = before ++ later ∧
          known ∈ (scene.after before).present ∧ (scene.after before).Defines known module := by
  cases hknown : current.dumps.knownFile current.files module with
  | some known =>
      obtain ⟨hmem, hbefore⟩ := known_after hfresh hcurrent hknown
      obtain ⟨content, hload, hresolve⟩ := hreadable.resolve_of_known hknown hmem
      refine ⟨_, hresolve, ?_, ?_, ?_⟩
      · rw [← defines_iff hload]
        constructor
        · intro hdefines
          refine ⟨⟨known, hmem, hdefines⟩, ?_⟩
          rintro _ ⟨⟩
          exact hdefines
        · rintro ⟨_, hall⟩
          exact hall known rfl
      · intro node hnode
        exact ⟨known, hmem, content, hload, Table.mem_of_find hnode⟩
      · rintro _ ⟨⟩
        exact ⟨hmem, hbefore⟩
  | none =>
      rcases hreadable.resolve_of_unknown hknown with
        ⟨hnone, hresolve⟩ | ⟨file, hmem, content, hload, hdefines, hresolve⟩
      · refine ⟨none, hresolve, ?_, ?_, ?_⟩
        · constructor
          · intro hsome
            contradiction
          · rintro ⟨⟨file, hmem, hdefines⟩, _⟩
            exact (hnone file hmem hdefines).elim
        · intro node hnode
          contradiction
        · intro known hnot
          contradiction
      · refine ⟨_, hresolve, ?_, ?_, ?_⟩
        · rw [← defines_iff hload]
          constructor
          · intro _
            refine ⟨⟨file, hmem, hdefines⟩, ?_⟩
            intro known hnot
            contradiction
          · intro _
            exact hdefines
        · intro node hnode
          exact ⟨file, hmem, content, hload, Table.mem_of_find hnode⟩
        · intro known hnot
          contradiction

/-- The file of a module without anything in it. -/
def dumped (name : Text) : Entry := .file (Dump.write (.moduleOf name .null))

/-- A folder with one dump, of the module `Cart`, before it is listed. -/
def cartOnly : Scene := ⟨Dumps.ofRoot, FileTree.empty.write ["a.json"] (dumped "Cart")⟩

/-- Its dumps after it is listed. -/
def cartListed : Dumps := { Dumps.ofRoot with index := .ofList [("Cart", ["a.json"])] }

theorem load_cart {dumps : Dumps} {files : FileTree} {file : Path}
    (hentry : files.get? (dumps.folder ++ file) = some (dumped "Cart")) :
    dumps.load files file = .ok (.moduleOf "Cart" .null) :=
  Dumps.load_of_write hentry (by decide +kernel) (by decide +kernel)

theorem step_list_cartOnly : cartOnly.step .list = ⟨cartListed, cartOnly.files⟩ := by
  have hfiles : Dumps.ofRoot.files cartOnly.files = [[.plain "a.json"]] :=
    Dumps.files_eq (by decide +kernel) (by decide +kernel)
  have hload : Dumps.ofRoot.load cartOnly.files [.plain "a.json"] = .ok (.moduleOf "Cart" .null) :=
    load_cart rfl
  have hwhole : (Dumps.ofRoot.files cartOnly.files).findSome? (Dumps.ofRoot.fatal? cartOnly.files) =
      none := by
    rw [hfiles, List.findSome?_cons, Dumps.fatal?_of_ok hload rfl]
    decide +kernel
  have hloaded : Dumps.ofRoot.loaded cartOnly.files (Dumps.ofRoot.files cartOnly.files) =
      [([.plain "a.json"], .moduleOf "Cart" .null)] := by
    simp [Dumps.loaded, hfiles, hload, Except.toOption]
  have hentered : Dumps.ofRoot.entered .empty [([.plain "a.json"], .moduleOf "Cart" .null)] =
      cartListed.index := by decide +kernel
  have hindex := Dumps.makeIndex_of_whole rfl hwhole
  rw [hloaded, hentered] at hindex
  exact congrArg (Scene.mk · cartOnly.files) (list_dumps_of_ok hindex)

/-- After the listing, the dump is deleted and written anew under another name. -/
def moved : List Action := [.list, .delete ["a.json"], .write ["b.json"] (dumped "Cart")]

theorem resolve_finds_moved :
    cartOnly.dumps.index = .empty ∧ (cartOnly.after moved).IsReadable ∧
      ∃ node, ((cartOnly.after moved).dumps.resolve (cartOnly.after moved).files "Cart").value =
        .ok (some node) := by
  have hmoved : cartOnly.after moved = ⟨cartListed,
      (cartOnly.files.delete ["a.json"]).write ["b.json"] (dumped "Cart")⟩ := by
    rw [after, moved, List.foldl_cons, step_list_cartOnly]
    rfl
  have hpresent : (cartOnly.after moved).present = [[.plain "b.json"]] := by
    rw [hmoved]
    exact Dumps.files_eq (by decide +kernel) (by decide +kernel)
  have hload : (cartOnly.after moved).dumps.load (cartOnly.after moved).files [.plain "b.json"] =
      .ok (.moduleOf "Cart" .null) := by
    rw [hmoved]
    exact load_cart rfl
  have hreadable : (cartOnly.after moved).IsReadable := by
    refine ⟨by rw [hmoved]; rfl, ?_⟩
    rw [hpresent]
    intro file hfile
    obtain rfl := List.mem_singleton.mp hfile
    exact ⟨_, hload, by decide +kernel⟩
  have hunknown : (cartOnly.after moved).dumps.knownFile (cartOnly.after moved).files "Cart" =
      none := by
    rw [hmoved]
    decide +kernel
  obtain ⟨found, hfound, hiff, _⟩ := resolve_misses_at_known_only rfl rfl hreadable "Cart"
  have hsome : found.isSome = true := by
    refine hiff.mpr ⟨⟨[.plain "b.json"], ?_, ?_⟩, ?_⟩
    · rw [hpresent]
      exact List.mem_singleton.mpr rfl
    · exact (defines_iff hload).mpr (by decide +kernel)
    · intro known hknown
      rw [hunknown] at hknown
      contradiction
  obtain ⟨node, rfl⟩ := Option.isSome_iff_exists.mp hsome
  exact ⟨rfl, hreadable, node, hfound⟩

/-- After the listing, the dump gets another module, and the module goes to another dump. -/
def edited : List Action :=
  [.list, .write ["a.json"] (dumped "Shop"), .write ["b.json"] (dumped "Cart")]

/-- A module that went from one dump to another is not found, as long as its old file is there. -/
theorem resolve_misses_edited :
    (cartOnly.after edited).IsReadable ∧ [.plain "b.json"] ∈ (cartOnly.after edited).present ∧
      (cartOnly.after edited).Defines ["b.json"] "Cart" ∧
      ((cartOnly.after edited).dumps.resolve (cartOnly.after edited).files "Cart").value =
        .ok none := by
  have hedited : cartOnly.after edited = ⟨cartListed,
      (cartOnly.files.write ["a.json"] (dumped "Shop")).write ["b.json"] (dumped "Cart")⟩ := by
    rw [after, edited, List.foldl_cons, step_list_cartOnly]
    rfl
  have hpresent : (cartOnly.after edited).present = [[.plain "a.json"], [.plain "b.json"]] := by
    rw [hedited]
    exact Dumps.files_eq (by decide +kernel) (by decide +kernel)
  have hshop : (cartOnly.after edited).dumps.load (cartOnly.after edited).files [.plain "a.json"] =
      .ok (.moduleOf "Shop" .null) := by
    rw [hedited]
    exact Dumps.load_of_write rfl (by decide +kernel) (by decide +kernel)
  have hcart : (cartOnly.after edited).dumps.load (cartOnly.after edited).files [.plain "b.json"] =
      .ok (.moduleOf "Cart" .null) := by
    rw [hedited]
    exact load_cart rfl
  have hknown : (cartOnly.after edited).dumps.knownFile (cartOnly.after edited).files "Cart" =
      some [.plain "a.json"] := by
    rw [hedited]
    decide +kernel
  have hreadable : (cartOnly.after edited).IsReadable := by
    refine ⟨by rw [hedited]; rfl, ?_⟩
    rw [hpresent]
    simp only [List.forall_mem_cons]
    exact ⟨⟨_, hshop, by decide +kernel⟩, ⟨_, hcart, by decide +kernel⟩, by simp⟩
  have hnone : (Term.moduleOf "Shop" .null).firstDefinition? "Cart" = none := by decide +kernel
  refine ⟨hreadable, ?_, ?_, ?_⟩
  · rw [hpresent]
    simp
  · exact (defines_iff hcart).mpr (by decide +kernel)
  · obtain ⟨content, hload, hresolve⟩ := hreadable.resolve_of_known hknown (by simp [hpresent])
    obtain rfl := Except.ok.inj (hshop.symm.trans hload)
    rw [hresolve, hnone]

end Scene

end CallAtlas
