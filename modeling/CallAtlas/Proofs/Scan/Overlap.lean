import Mathlib.Algebra.GroupWithZero.Nat
import Mathlib.Data.Finset.Card
import Mathlib.Logic.Relation
import CallAtlas.Proofs.Scan.Effect
import CallAtlas.Proofs.Source.Listing

/-!
Rescans that overlap.  Each of them stores the blocks of its listing one by one, then reads the names
of all stored modules once, and then removes those that are not listed one by one.  The steps of
several rescans may alternate in any way.

Two facts carry the proof.  The listed part of the store is at any time the initial one with some of
the blocks stored in the order of the listing: a rescan that lags behind stores only what is there
already.  And a rescan that has read the names still has every module before it that is to be
removed, so that whoever removes a module first counts it, and nobody else.
-/

namespace CallAtlas

namespace Store

/-- The store with some blocks put one after the other. -/
def putAll (store : Store) (blocks : List (Text × Block)) : Store :=
  ⟨store.blocks.insertAll blocks⟩

theorem putAll_cons (store : Store) (module : Text) (block : Block)
    (rest : List (Text × Block)) :
    store.putAll ((module, block) :: rest) = (store.put module block).putAll rest := rfl

theorem putAll_concat (store : Store) (blocks : List (Text × Block)) (module : Text)
    (block : Block) :
    store.putAll (blocks ++ [(module, block)]) = (store.putAll blocks).put module block := by
  simp [putAll, Table.insertAll, put]

/-- Putting the block that is there changes nothing. -/
theorem put_of_get? {store : Store} {module : Text} {block : Block}
    (hblock : store.get? module = some block) : store.put module block = store := by
  rw [put, Table.insert_of_get? hblock]

/-- A module has the block that was put for it, if all that were put are the same. -/
theorem get?_putAll_of_mem {blocks : List (Text × Block)} {module : Text} {block : Block}
    (hmem : (module, block) ∈ blocks)
    (hunique : ∀ other, (module, other) ∈ blocks → other = block) (store : Store) :
    (store.putAll blocks).get? module = some block := by
  rw [get?, putAll, Table.get?_insertAll]
  cases hfind : Table.find module blocks.reverse with
  | none =>
      have hkey : module ∈ blocks.reverse.map Prod.fst :=
        List.mem_map.mpr ⟨(module, block), List.mem_reverse.mpr hmem, rfl⟩
      exact absurd hkey (Table.find_eq_none_iff.mp hfind)
  | some other =>
      rw [hunique other (List.mem_reverse.mp (Table.mem_of_find hfind))]
      rfl

theorem contains_eq_true_iff {store : Store} {module : Text} :
    store.contains module = true ↔ store.get? module ≠ none := by
  rw [contains, Table.contains, get?, Option.isSome_iff_ne_none]

theorem foldl_remove_eq (store : Store) (modules : List Text) :
    modules.foldl remove store =
      ⟨store.blocks.filterKeys fun module => decide (module ∉ modules)⟩ := by
  induction modules generalizing store with
  | nil => simp [Table.filterKeys]
  | cons first rest ih =>
      rw [List.foldl_cons, ih, remove, Table.erase, Table.filterKeys_filterKeys]
      congr 2
      funext module
      simp [Bool.and_comm]

end Store

namespace Scan

variable (store : Store) {listed : List Text}

theorem nodup_unlisted (listed : List Text) : (unlisted store listed).Nodup := by
  apply List.Nodup.filter
  exact (List.mergeSort_perm store.blocks.keys nameLe).nodup_iff.mpr store.blocks.nodup

theorem unlisted_of_sorted {store : Store}
    (hsorted : store.blocks.keys.Pairwise fun first second => nameLe first second = true)
    (listed : List Text) :
    unlisted store listed = store.blocks.keys.filter fun module => decide (module ∉ listed) := by
  rw [unlisted, Store.names, sortNames, List.mergeSort_of_pairwise hsorted]

/-- What is left are the listed modules, in the order in which they stood. -/
theorem prune_eq :
    prune store listed = ⟨store.blocks.filterKeys fun module => decide (module ∈ listed)⟩ := by
  have hsame : ∀ module ∈ store.blocks.keys,
      decide (module ∉ unlisted store listed) = decide (module ∈ listed) := by
    intro module hmodule
    have hstored : store.get? module ≠ none := by
      rwa [Store.get?, ne_eq, Table.get?_eq_none_iff, not_not]
    simp [mem_unlisted, hstored]
  rw [prune, Store.foldl_remove_eq, Table.filterKeys_congr hsame]

theorem prune_put {module : Text} (hmodule : module ∈ listed) (block : Block) :
    prune (store.put module block) listed = (prune store listed).put module block := by
  have hkeep := store.blocks.filterKeys_insert (fun key => decide (key ∈ listed))
    (decide_eq_true hmodule) block
  rw [prune_eq, prune_eq, Store.put, hkeep, Store.put]

theorem prune_putAll {blocks : List (Text × Block)} (hblocks : ∀ found ∈ blocks, found.1 ∈ listed) :
    prune (store.putAll blocks) listed = (prune store listed).putAll blocks := by
  induction blocks generalizing store with
  | nil => rfl
  | cons first rest ih =>
      obtain ⟨hfirst, hrest⟩ := List.forall_mem_cons.mp hblocks
      rw [Store.putAll_cons, Store.putAll_cons, ih _ hrest, prune_put store hfirst]

theorem prune_remove {module : Text} (hmodule : module ∉ listed) :
    prune (store.remove module) listed = prune store listed := by
  rw [prune_eq, prune_eq, Store.remove, Table.erase, Table.filterKeys_filterKeys]
  congr 2
  funext other
  by_cases hother : other = module
  · simp [hother, hmodule]
  · simp [hother]

/-- Nothing happens to a store with listed modules only. -/
theorem prune_of_unlisted_eq_nil {store : Store} (hnone : unlisted store listed = []) :
    prune store listed = store := by
  rw [prune, hnone]
  rfl

variable {module : Text}

theorem mem_unlisted_put (hmodule : module ∈ listed) (block : Block) (other : Text) :
    other ∈ unlisted (store.put module block) listed ↔ other ∈ unlisted store listed := by
  simp only [mem_unlisted, Store.get?_put]
  by_cases hother : module = other
  · subst hother
    simp [hmodule]
  · simp [hother]

theorem mem_unlisted_remove (other : Text) :
    other ∈ unlisted (store.remove module) listed ↔
      other ≠ module ∧ other ∈ unlisted store listed := by
  simp only [mem_unlisted, Store.get?_remove]
  by_cases hother : module = other
  · simp [hother]
  · simp [hother, Ne.symm hother]

theorem card_unlisted_put (hmodule : module ∈ listed) (block : Block) :
    (unlisted (store.put module block) listed).toFinset.card =
      (unlisted store listed).toFinset.card := by
  congr 1
  ext other
  rw [List.mem_toFinset, List.mem_toFinset, mem_unlisted_put store hmodule block]

/-- There is one module less, if the module was there. -/
theorem card_unlisted_remove (hmodule : module ∉ listed) :
    (if store.contains module then 1 else 0) +
        (unlisted (store.remove module) listed).toFinset.card =
      (unlisted store listed).toFinset.card := by
  have herase : (unlisted (store.remove module) listed).toFinset =
      (unlisted store listed).toFinset.erase module := by
    ext other
    rw [List.mem_toFinset, mem_unlisted_remove, Finset.mem_erase, List.mem_toFinset]
  have hmem : module ∈ (unlisted store listed).toFinset ↔ store.contains module = true := by
    rw [List.mem_toFinset, mem_unlisted, and_iff_left hmodule, Store.contains_eq_true_iff]
  rw [herase]
  by_cases hstored : store.contains module = true
  · rw [if_pos hstored, Nat.add_comm, Finset.card_erase_add_one (hmem.mpr hstored)]
  · rw [if_neg hstored, Nat.zero_add, Finset.erase_eq_of_notMem (mt hmem.mp hstored)]

end Scan

/-- A rescan under way: the blocks that it has still to store; or, once it has read the names of all
stored modules, the modules that it has still to remove and the number of those it has removed. -/
inductive Pass where
  | storing (blocks : List (Text × Block))
  | removing (modules : List Text) (removed : Nat)
deriving Repr, DecidableEq, Inhabited

namespace Pass

/-- The number of modules that a rescan has removed. -/
def removed : Pass → Nat
  | .storing _ => 0
  | .removing _ removed => removed

def isFinished : Pass → Bool
  | .storing _ => false
  | .removing modules _ => modules.isEmpty

/-- The steps of a rescan.  Each leaves the store in a new state, and other rescans may change the
store between two steps.  Modules are removed in any order; one that is no longer there does not
count. -/
inductive Step (listed : List Text) : Store × Pass → Store × Pass → Prop where
  | put (store : Store) (module : Text) (block : Block) (rest : List (Text × Block)) :
      Step listed (store, .storing ((module, block) :: rest))
        (store.put module block, .storing rest)
  | snapshot (store : Store) :
      Step listed (store, .storing []) (store, .removing (Scan.unlisted store listed) 0)
  | remove (store : Store) (module : Text) (modules : List Text) (removed : Nat)
      (hmodule : module ∈ modules) :
      Step listed (store, .removing modules removed)
        (store.remove module, .removing (modules.erase module)
          (removed + if store.contains module then 1 else 0))

/-- What a rescan has before it, when all rescans together have still to store the blocks `ahead`:
no less than these, or else every stored module that is not listed. -/
def Fits (listed : List Text) (blocks ahead : List (Text × Block)) (store : Store) : Pass → Prop
  | .storing rest => ahead <:+ rest ∧ rest <:+ blocks
  | .removing modules _ =>
    ahead = [] ∧ (∀ module ∈ modules, module ∉ listed) ∧ Scan.unlisted store listed ⊆ modules

variable {listed : List Text} {blocks ahead : List (Text × Block)} {store : Store}

/-- The others may store more blocks and remove more modules. -/
theorem Fits.mono {pass : Pass} (hfits : pass.Fits listed blocks ahead store)
    {ahead' : List (Text × Block)} (hahead : ahead' <:+ ahead) {store' : Store}
    (hstore : Scan.unlisted store' listed ⊆ Scan.unlisted store listed) :
    pass.Fits listed blocks ahead' store' := by
  cases pass with
  | storing rest => exact ⟨hahead.trans hfits.1, hfits.2⟩
  | removing modules removed =>
      obtain ⟨rfl, hunlisted, hmodules⟩ := hfits
      exact ⟨List.suffix_nil.mp hahead, hunlisted, List.Subset.trans hstore hmodules⟩

/-- The blocks of a listing: of listed modules only, and for each module always the same one. -/
structure Consistent (listed : List Text) (blocks : List (Text × Block)) : Prop where
  isListed : ∀ module block, (module, block) ∈ blocks → module ∈ listed
  unique : ∀ module first second,
    (module, first) ∈ blocks → (module, second) ∈ blocks → first = second

/-- All rescans together have stored the blocks of the listing up to `ahead`: so the listed part of
the store says. -/
def Stored (listed : List Text) (blocks ahead : List (Text × Block)) (initial store : Store) :
    Prop :=
  ∃ done, done ++ ahead = blocks ∧
    Scan.prune store listed = (Scan.prune initial listed).putAll done

variable {initial : Store} {module : Text} {block : Block} {rest : List (Text × Block)}

/-- A rescan in front stores the next block. -/
theorem Stored.put_next (hblocks : Consistent listed blocks)
    (hstored : Stored listed blocks ((module, block) :: rest) initial store) :
    Stored listed blocks rest initial (store.put module block) := by
  obtain ⟨done, hdone, hprune⟩ := hstored
  have hlisted : module ∈ listed := hblocks.isListed module block (by simp [← hdone])
  refine ⟨done ++ [(module, block)], by simpa using hdone, ?_⟩
  rw [Scan.prune_put store hlisted, hprune, Store.putAll_concat]

/-- A rescan behind stores a block that is there. -/
theorem Stored.put_again (hblocks : Consistent listed blocks) (hahead : ahead <:+ rest)
    (hrest : (module, block) :: rest <:+ blocks)
    (hstored : Stored listed blocks ahead initial store) :
    Stored listed blocks ahead initial (store.put module block) := by
  obtain ⟨done, hdone, hprune⟩ := hstored
  obtain ⟨front, hfront⟩ := hrest
  obtain ⟨between, rfl⟩ := hahead
  have hsplit : front ++ (module, block) :: between = done := by
    apply (List.append_left_inj ahead).mp
    rw [hdone, ← hfront, List.append_assoc, List.cons_append]
  have hmem : (module, block) ∈ done := by simp [← hsplit]
  have hsub : ∀ {found}, found ∈ done → found ∈ blocks := by
    intro found hfound
    rw [← hdone]
    exact List.mem_append_left ahead hfound
  have hget : ((Scan.prune initial listed).putAll done).get? module = some block := by
    apply Store.get?_putAll_of_mem hmem
    intro other hother
    exact hblocks.unique module other block (hsub hother) (hsub hmem)
  refine ⟨done, hdone, ?_⟩
  rw [Scan.prune_put store (hblocks.isListed module block (hsub hmem)), hprune,
    Store.put_of_get? hget]

theorem Stored.remove (hmodule : module ∉ listed)
    (hstored : Stored listed blocks ahead initial store) :
    Stored listed blocks ahead initial (store.remove module) := by
  obtain ⟨done, hdone, hprune⟩ := hstored
  exact ⟨done, hdone, by rw [Scan.prune_remove store hmodule, hprune]⟩

/-- One step of a rescan.  The listed part of the store goes on to the next block or stays as it is,
the rescan keeps before it all that it needs to, nothing comes back that is to be removed, and a
module is counted in the step that takes it out of the store. -/
theorem Step.preserves {store' : Store} {pass pass' : Pass} (hblocks : Consistent listed blocks)
    (hstep : Step listed (store, pass) (store', pass'))
    (hfits : pass.Fits listed blocks ahead store)
    (hstored : Stored listed blocks ahead initial store) :
    ∃ ahead', ahead' <:+ ahead ∧ Stored listed blocks ahead' initial store' ∧
      pass'.Fits listed blocks ahead' store' ∧
      Scan.unlisted store' listed ⊆ Scan.unlisted store listed ∧
      pass'.removed + (Scan.unlisted store' listed).toFinset.card =
        pass.removed + (Scan.unlisted store listed).toFinset.card := by
  cases hstep with
  | put store module block rest =>
      obtain ⟨hahead, hrest⟩ := hfits
      have hlisted : module ∈ listed :=
        hblocks.isListed module block (hrest.subset List.mem_cons_self)
      have hsubset : Scan.unlisted (store.put module block) listed ⊆
          Scan.unlisted store listed := by
        intro other hother
        exact (Scan.mem_unlisted_put store hlisted block other).mp hother
      have hcount := congrArg (0 + ·) (Scan.card_unlisted_put store hlisted block)
      have hsuffix : rest <:+ blocks := (List.suffix_cons _ _).trans hrest
      rcases List.suffix_cons_iff.mp hahead with rfl | hbehind
      · exact ⟨rest, List.suffix_cons _ _, hstored.put_next hblocks,
          ⟨List.suffix_rfl, hsuffix⟩, hsubset, hcount⟩
      · exact ⟨ahead, List.suffix_rfl, hstored.put_again hblocks hbehind hrest,
          ⟨hbehind, hsuffix⟩, hsubset, hcount⟩
  | snapshot =>
      obtain rfl := List.suffix_nil.mp hfits.1
      refine ⟨[], List.suffix_rfl, hstored, ⟨rfl, ?_, List.Subset.refl _⟩, List.Subset.refl _, rfl⟩
      intro module hmodule
      exact (Scan.mem_unlisted.mp hmodule).2
  | remove store module modules removed hmodule =>
      obtain ⟨rfl, hunlisted, hmodules⟩ := hfits
      refine ⟨[], List.suffix_rfl, hstored.remove (hunlisted module hmodule), ⟨rfl, ?_, ?_⟩, ?_, ?_⟩
      · intro other hother
        exact hunlisted other (List.mem_of_mem_erase hother)
      · intro other hother
        obtain ⟨hne, hold⟩ := (Scan.mem_unlisted_remove store other).mp hother
        exact (List.mem_erase_of_ne hne).mpr (hmodules hold)
      · intro other hother
        exact ((Scan.mem_unlisted_remove store other).mp hother).2
      · have hcount := Scan.card_unlisted_remove store (hunlisted module hmodule)
        simp only [Pass.removed]
        omega

/-- A rescan alone stores its blocks in order. -/
theorem steps_storing (store : Store) (blocks : List (Text × Block)) :
    Relation.ReflTransGen (Step listed) (store, .storing blocks)
      (store.putAll blocks, .storing []) := by
  induction blocks generalizing store with
  | nil => exact .refl
  | cons first rest ih =>
      exact .head (.put store first.1 first.2 rest) (ih (store.put first.1 first.2))

/-- Removing the first of the modules that are left, whether it is still there or not. -/
theorem Step.remove_head (store : Store) (module : Text) (rest : List Text) (removed : Nat) :
    Step listed (store, .removing (module :: rest) removed)
      (store.remove module, .removing rest (removed + if store.contains module then 1 else 0)) := by
  have hstep : Step listed (store, .removing (module :: rest) removed) _ :=
    .remove store module (module :: rest) removed List.mem_cons_self
  rwa [List.erase_cons_head] at hstep

/-- A rescan alone counts all that it removes. -/
theorem steps_removing {modules : List Text} (hnodup : modules.Nodup) {store : Store}
    (hstored : ∀ module ∈ modules, store.get? module ≠ none) (removed : Nat) :
    Relation.ReflTransGen (Step listed) (store, .removing modules removed)
      (modules.foldl Store.remove store, .removing [] (removed + modules.length)) := by
  induction modules generalizing store removed with
  | nil => exact .refl
  | cons first rest ih =>
      obtain ⟨hfirst, hrest⟩ := List.nodup_cons.mp hnodup
      have hstep : Step listed (store, .removing (first :: rest) removed)
          (store.remove first, .removing rest (removed + 1)) := by
        have hthere := Store.contains_eq_true_iff.mpr (hstored first List.mem_cons_self)
        simpa [hthere] using Step.remove_head store first rest removed
      have hleft : ∀ module ∈ rest, (store.remove first).get? module ≠ none := by
        intro module hmodule
        have hne : first ≠ module := by
          rintro rfl
          exact hfirst hmodule
        rw [Store.get?_remove, if_neg hne]
        exact hstored module (List.mem_cons_of_mem first hmodule)
      have hrun := ih hrest hleft (removed + 1)
      rw [Nat.add_assoc, Nat.add_comm 1] at hrun
      exact .head hstep hrun

end Pass

/-- A store and the rescans that fill it at the same time. -/
structure Overlap where
  store : Store
  passes : List Pass
deriving Repr, DecidableEq, Inhabited

namespace Overlap

/-- A number of rescans that all begin with the same blocks. -/
def start (store : Store) (blocks : List (Text × Block)) (count : Nat) : Overlap :=
  ⟨store, List.replicate count (.storing blocks)⟩

/-- One of the rescans takes a step. -/
inductive Step (listed : List Text) : Overlap → Overlap → Prop where
  | advance {store store' : Store} {pass pass' : Pass} (before after : List Pass)
      (hstep : Pass.Step listed (store, pass) (store', pass')) :
      Step listed ⟨store, before ++ pass :: after⟩ ⟨store', before ++ pass' :: after⟩

/-- The number of modules that all rescans have removed. -/
def removed (overlap : Overlap) : Nat := (overlap.passes.map Pass.removed).sum

/-- All rescans have come to their end. -/
def isFinished (overlap : Overlap) : Bool := overlap.passes.all Pass.isFinished

/-- What holds as long as rescans overlap. -/
structure Sound (listed : List Text) (blocks : List (Text × Block)) (initial : Store)
    (ahead : List (Text × Block)) (overlap : Overlap) : Prop where
  stored : Pass.Stored listed blocks ahead initial overlap.store
  fits : ∀ pass ∈ overlap.passes, pass.Fits listed blocks ahead overlap.store
  count : overlap.removed + (Scan.unlisted overlap.store listed).toFinset.card =
    (Scan.unlisted initial listed).toFinset.card

variable {listed : List Text} {blocks ahead : List (Text × Block)} {initial : Store}

theorem sound_start (listed : List Text) (blocks : List (Text × Block)) (initial : Store)
    (count : Nat) : Sound listed blocks initial blocks (start initial blocks count) where
  stored := ⟨[], rfl, rfl⟩
  fits := by
    intro pass hpass
    obtain rfl := List.eq_of_mem_replicate hpass
    exact ⟨List.suffix_rfl, List.suffix_rfl⟩
  count := by
    simp [start, removed, Pass.removed]

theorem removed_append (store : Store) (before after : List Pass) (pass : Pass) :
    (⟨store, before ++ pass :: after⟩ : Overlap).removed =
      (before.map Pass.removed).sum + pass.removed + (after.map Pass.removed).sum := by
  simp [removed, Nat.add_assoc]

theorem Sound.step {overlap next : Overlap} (hblocks : Pass.Consistent listed blocks)
    (hsound : Sound listed blocks initial ahead overlap) (hstep : Step listed overlap next) :
    ∃ ahead', Sound listed blocks initial ahead' next := by
  obtain ⟨hstored, hfits, hcount⟩ := hsound
  cases hstep with
  | @advance store store' pass pass' before after hstep =>
      obtain ⟨ahead', hahead, hstored', hpass, hsubset, hcount'⟩ :=
        hstep.preserves hblocks (hfits pass (by simp)) hstored
      refine ⟨ahead', hstored', ?_, ?_⟩
      · intro other hother
        -- only the rescan that took the step has changed
        rcases List.mem_append.mp hother with hbefore | hrest
        · exact (hfits other (List.mem_append_left _ hbefore)).mono hahead hsubset
        · rcases List.mem_cons.mp hrest with rfl | hafter
          · exact hpass
          · refine (hfits other ?_).mono hahead hsubset
            exact List.mem_append_right before (List.mem_cons_of_mem pass hafter)
      · rw [removed_append] at hcount ⊢
        simp only at hcount ⊢
        omega

theorem Sound.run {overlap final : Overlap} (hblocks : Pass.Consistent listed blocks)
    (hsound : Sound listed blocks initial ahead overlap)
    (hrun : Relation.ReflTransGen (Step listed) overlap final) :
    ∃ ahead', Sound listed blocks initial ahead' final := by
  induction hrun with
  | refl => exact ⟨ahead, hsound⟩
  | tail _ hstep ih =>
      obtain ⟨reached, hreached⟩ := ih
      exact hreached.step hblocks hstep

/-- At the end all blocks are stored, and no module is left that is not listed. -/
theorem Sound.finish {overlap : Overlap} (hsound : Sound listed blocks initial ahead overlap)
    (hfinished : overlap.isFinished = true) (hpasses : overlap.passes ≠ []) :
    overlap.store = (Scan.prune initial listed).putAll blocks ∧
      overlap.removed = (Scan.unlisted initial listed).toFinset.card := by
  obtain ⟨pass, hpass⟩ := List.exists_mem_of_ne_nil _ hpasses
  have hend : ahead = [] ∧ Scan.unlisted overlap.store listed = [] := by
    have hfits := hsound.fits pass hpass
    have hdone := List.all_eq_true.mp hfinished pass hpass
    cases pass with
    | storing rest => simp [Pass.isFinished] at hdone
    | removing modules removed =>
        obtain rfl := List.isEmpty_iff.mp hdone
        exact ⟨hfits.1, List.subset_nil.mp hfits.2.2⟩
  obtain ⟨rfl, hnone⟩ := hend
  obtain ⟨done, hdone, hprune⟩ := hsound.stored
  constructor
  · rw [← hdone, List.append_nil, ← hprune, Scan.prune_of_unlisted_eq_nil hnone]
  · simpa [hnone] using hsound.count

/-- No rescan comes or goes. -/
theorem length_passes_run {overlap final : Overlap}
    (hrun : Relation.ReflTransGen (Step listed) overlap final) :
    final.passes.length = overlap.passes.length := by
  induction hrun with
  | refl => rfl
  | tail _ hstep ih =>
      obtain ⟨before, after, _⟩ := hstep
      rw [← ih]
      simp

end Overlap

theorem Scan.store_run [Depths] {lookup : Text → Except SourceFault (Option Term)}
    {listed : List Text} (hgoes : GoesOn lookup listed) (store : Store) :
    (run lookup listed store).store =
      store.putAll (listed.filterMap fun module => (block? lookup module).map (module, ·)) := by
  induction listed generalizing store with
  | nil => rfl
  | cons first rest ih =>
      obtain ⟨hfirst, hrest⟩ := goesOn_cons.mp hgoes
      cases hresult : scanTree first (lookup first) with
      | ok normal =>
          have hblock : block? lookup first = some normal.block := by
            simp [block?, hresult, Except.toOption]
          rw [run_of_ok hresult, List.filterMap_cons, hblock]
          exact ih hrest (store.put first normal.block)
      | error cause =>
          have hblock : block? lookup first = none := by
            simp [block?, hresult, Except.toOption]
          rw [run_of_error hresult (hfirst cause hresult), List.filterMap_cons, hblock]
          exact ih hrest store

namespace Memory

variable (memory : Memory)

/-- The blocks that a rescan of memory stores, in the order of the listing. -/
def blocks [Depths] : List (Text × Block) :=
  memory.list.filterMap fun module => (memory.block? module).map (module, ·)

theorem mem_blocks [Depths] {module : Text} {block : Block} :
    (module, block) ∈ memory.blocks ↔ module ∈ memory.list ∧ memory.block? module = some block := by
  simp only [blocks, List.mem_filterMap, Option.map_eq_some_iff, Prod.mk.injEq]
  constructor
  · rintro ⟨_, hlisted, _, hblock, rfl, rfl⟩
    exact ⟨hlisted, hblock⟩
  · rintro ⟨hlisted, hblock⟩
    exact ⟨module, hlisted, block, hblock, rfl, rfl⟩

theorem consistent_blocks [Depths] : Pass.Consistent memory.list memory.blocks where
  isListed module block hmem := (memory.mem_blocks.mp hmem).1
  unique module first second hfirst hsecond := by
    have hboth := (memory.mem_blocks.mp hfirst).2.symm.trans (memory.mem_blocks.mp hsecond).2
    exact Option.some.inj hboth

theorem store_run [Depths] (store : Store) :
    (Scan.run memory.lookup memory.list store).store = store.putAll memory.blocks := by
  rw [Scan.store_run (memory.goesOn_lookup memory.list)]
  simp only [block?_lookup, blocks]

/-- A rescan of memory is one pass that nothing comes between. -/
theorem steps_rescan [Depths] (store : Store) :
    ∃ stats, (store.rescan memory.list memory.lookup).outcome = .ok stats ∧
      Relation.ReflTransGen (Pass.Step memory.list) (store, .storing memory.blocks)
        ((store.rescan memory.list memory.lookup).store, .removing [] stats.removed) := by
  have hgoes := memory.goesOn_lookup memory.list
  refine ⟨_, Store.rescan_outcome hgoes store, ?_⟩
  rw [Store.rescan_store hgoes, memory.store_run]
  have hnodup : (Scan.unlisted (store.putAll memory.blocks) memory.list).Nodup :=
    Scan.nodup_unlisted _ memory.list
  have hremoving : Relation.ReflTransGen (Pass.Step memory.list) _ _ :=
    Pass.steps_removing hnodup (fun module hmodule => (Scan.mem_unlisted.mp hmodule).1) 0
  rw [Nat.zero_add] at hremoving
  exact (Pass.steps_storing store memory.blocks).trans (hremoving.head (.snapshot _))

/-- Rescans of the same memory may overlap in any way.  A rescan alone is one such run of steps.
When all rescans have come to their end, the store is the one that a single rescan leaves, and every
module that was stored and is not listed has been counted by exactly one of them. -/
theorem rescan_overlapping [Depths] (store : Store) :
    (∃ stats, (store.rescan memory.list memory.lookup).outcome = .ok stats ∧
      Relation.ReflTransGen (Pass.Step memory.list) (store, .storing memory.blocks)
        ((store.rescan memory.list memory.lookup).store, .removing [] stats.removed)) ∧
      ∀ count final,
        Relation.ReflTransGen (Overlap.Step memory.list)
            (.start store memory.blocks (count + 1)) final →
          final.isFinished = true →
            final.store = (store.rescan memory.list memory.lookup).store ∧
              final.removed = (Scan.unlisted store memory.list).toFinset.card := by
  refine ⟨memory.steps_rescan store, ?_⟩
  intro count final hrun hfinished
  have hblocks := memory.consistent_blocks
  obtain ⟨ahead, hsound⟩ :=
    (Overlap.sound_start memory.list memory.blocks store (count + 1)).run hblocks hrun
  have hpasses : final.passes ≠ [] := by
    apply List.ne_nil_of_length_pos
    rw [Overlap.length_passes_run hrun]
    simp [Overlap.start]
  obtain ⟨hstore, hremoved⟩ := hsound.finish hfinished hpasses
  refine ⟨?_, hremoved⟩
  have hlisted : ∀ found ∈ memory.blocks, found.1 ∈ memory.list := by
    intro found hfound
    exact hblocks.isListed found.1 found.2 hfound
  rw [Store.rescan_store (memory.goesOn_lookup memory.list), memory.store_run,
    Scan.prune_putAll store hlisted, hstore]

/-- Memory with a module that cannot be normalized and one that can. -/
def halfBroken : Memory := .ofList [("Cart", .int 1), ("Shop", .moduleOf "Shop" .null)]

/-- A store with a module that is not listed any more, and an older block of the broken one. -/
def olderStore : Store :=
  (Store.empty.put "Basket" { name := "Basket" }).put "Cart" { name := "Cart" }

/-- The store with the block of the other module. -/
def newerStore : Store := olderStore.put "Shop" { name := "Shop" }

/-- Two rescans both see the module that is to go, and only the second of them removes it. -/
theorem rescan_overlapping_twice :
    ∃ final, Relation.ReflTransGen (Overlap.Step halfBroken.list)
        (.start olderStore halfBroken.blocks 2) final ∧
      final.isFinished = true ∧
      final.store = (olderStore.rescan halfBroken.list halfBroken.lookup).store ∧
      final.removed = 1 := by
  have hblocks : halfBroken.blocks = [(.plain "Shop", { name := "Shop" })] := by decide +kernel
  have hold : Scan.unlisted olderStore halfBroken.list = [.plain "Basket"] := by
    rw [Scan.unlisted_of_sorted (by decide +kernel)]
    decide +kernel
  have hnew : Scan.unlisted newerStore halfBroken.list = [.plain "Basket"] := by
    rw [Scan.unlisted_of_sorted (by decide +kernel)]
    decide +kernel
  have hagain : newerStore.put "Shop" { name := "Shop" } = newerStore := by decide +kernel
  have hput : Pass.Step halfBroken.list
      (newerStore, .storing [(.plain "Shop", { name := "Shop" })]) (newerStore, .storing []) := by
    have hstep : Pass.Step halfBroken.list _ _ := .put newerStore "Shop" { name := "Shop" } []
    rwa [hagain] at hstep
  have hsnapshot : Pass.Step halfBroken.list (newerStore, .storing [])
      (newerStore, .removing [.plain "Basket"] 0) := hnew ▸ .snapshot newerStore
  have hremove : Pass.Step halfBroken.list (newerStore, .removing [.plain "Basket"] 0)
      (newerStore.remove "Basket", .removing [] 1) := by
    have hthere : newerStore.contains "Basket" = true := by decide +kernel
    simpa [hthere] using Pass.Step.remove_head newerStore "Basket" [] 0
  have hmissed : Pass.Step halfBroken.list
      (newerStore.remove "Basket", .removing [.plain "Basket"] 0)
      ((newerStore.remove "Basket").remove "Basket", .removing [] 0) := by
    have hgone : (newerStore.remove "Basket").contains "Basket" = false := by decide +kernel
    simpa [hgone] using Pass.Step.remove_head (newerStore.remove "Basket") "Basket" [] 0
  have hrun : Relation.ReflTransGen (Overlap.Step halfBroken.list)
      (.start olderStore halfBroken.blocks 2)
      ⟨(newerStore.remove "Basket").remove "Basket", [.removing [] 0, .removing [] 1]⟩ := by
    rw [hblocks]
    refine .head (.advance [] _ (.put olderStore ..)) ?_
    refine .head (.advance [] _ hsnapshot) ?_
    refine .head (.advance [_] [] hput) ?_
    refine .head (.advance [_] [] hsnapshot) ?_
    refine .head (.advance [_] [] hremove) ?_
    exact .single (.advance [] _ hmissed)
  obtain ⟨hstore, hremoved⟩ := (halfBroken.rescan_overlapping olderStore).2 1 _ hrun rfl
  refine ⟨_, hrun, rfl, hstore, ?_⟩
  rw [hremoved, hold]
  rfl

end Memory

end CallAtlas
