import Mathlib.Data.List.Induction
import CallAtlas.Proofs.Scan.Effect

/-!
Histories of a session whose modules are held in memory: trees are added, set and forgotten, and
from time to time the session rescans.  What the store holds then depends only on memory as it was at the
rescans.  A block stays through any number of rescans at which its module is listed but gives no
block; one rescan at which the module is not listed, and it is gone.
-/

namespace CallAtlas.Session

variable [Depths]

/-- Something that is done to a session with modules in memory. -/
inductive Step where
  | add (tree : Term)
  | set (module : Text) (tree : Term)
  | forget (module : Text)
  | rescan (files : FileTree)

/-- The session after a step. -/
def step (session : Session) : Step → Session
  | .add tree => session.withMemory fun memory => memory.add tree
  | .set module tree => session.withMemory fun memory => memory.set module tree
  | .forget module => session.withMemory fun memory => memory.forget module
  | .rescan files => (session.rescan files).session

/-- The session after some steps. -/
def after (session : Session) (steps : List Step) : Session := steps.foldl step session

/-- An open session with nothing in memory and nothing stored. -/
def fresh (settings : Settings) : Session := { settings, source := .memory .empty }

/-- What a step does to memory. -/
def Step.change (memory : Memory) : Step → Memory
  | .add tree => memory.add tree
  | .set module tree => memory.set module tree
  | .forget module => memory.forget module
  | .rescan _ => memory

/-- What a step scans: memory as it is, for a rescan. -/
def Step.scans (memory : Memory) : Step → List Memory
  | .rescan _ => [memory]
  | _ => []

/-- Memory as it was at each rescan, for steps that begin with `memory`. -/
def scanned (memory : Memory) : List Step → List Memory
  | [] => []
  | first :: rest => first.scans memory ++ scanned (first.change memory) rest

/-- What is known of a module after a rescan of memory, from what was known before. -/
def retain (module : Text) (known : Option Block) (memory : Memory) : Option Block :=
  if module ∈ memory.list then (memory.block? module).or known else none

section Run

variable {session : Session} {memory : Memory}

/-- A step changes memory as it should, and the store by what it scans. -/
theorem step_memory (hopen : session.isClosed = false) (hsource : session.source = .memory memory)
    (first : Step) :
    (session.step first).isClosed = false ∧
      (session.step first).source = .memory (first.change memory) ∧
      ∀ module, (session.step first).store.get? module =
        (first.scans memory).foldl (retain module) (session.store.get? module) := by
  cases first with
  | add tree => simp [step, withMemory, hsource, hopen, Step.change, Step.scans]
  | set module tree => simp [step, withMemory, hsource, hopen, Step.change, Step.scans]
  | forget module => simp [step, withMemory, hsource, hopen, Step.change, Step.scans]
  | rescan files =>
      rw [step, rescan_memory hopen hsource]
      refine ⟨hopen, hsource, ?_⟩
      intro module
      change (session.store.rescan memory.list memory.lookup).store.get? module = _
      rw [Store.get?_rescan (memory.goesOn_lookup memory.list), Memory.block?_lookup]
      rfl

/-- Only the rescans of a history matter to the store. -/
theorem get?_after (hopen : session.isClosed = false) (hsource : session.source = .memory memory)
    (steps : List Step) (module : Text) :
    (session.after steps).store.get? module =
      (scanned memory steps).foldl (retain module) (session.store.get? module) := by
  induction steps generalizing session memory with
  | nil => rfl
  | cons first rest ih =>
      obtain ⟨hopen, hsource, hstore⟩ := step_memory hopen hsource first
      rw [scanned, List.foldl_append, ← hstore module]
      exact ih hopen hsource

end Run

theorem retain_eq_some_iff {module : Text} {known : Option Block} {memory : Memory}
    {block : Block} :
    retain module known memory = some block ↔
      module ∈ memory.list ∧ (memory.block? module = some block ∨
        memory.block? module = none ∧ known = some block) := by
  by_cases hlisted : module ∈ memory.list <;>
    simp [retain, hlisted, Option.or_eq_some_iff]

/-- What is known after some rescans comes from the last of them that gave a block, if the module
was listed from there on. -/
theorem foldl_retain_eq_some_iff (scans : List Memory) (module : Text) (block : Block) :
    scans.foldl (retain module) none = some block ↔
      ∃ before memory later, scans = before ++ memory :: later ∧
        module ∈ memory.list ∧ memory.block? module = some block ∧
        ∀ next ∈ later, module ∈ next.list ∧ next.block? module = none := by
  induction scans using List.reverseRecOn with
  | nil => simp
  | append_singleton scans last ih =>
      rw [List.foldl_append, List.foldl_cons, List.foldl_nil, retain_eq_some_iff, ih]
      constructor
      · rintro ⟨hlisted, hblock | ⟨hnone, before, memory, later, rfl, hmemory, hgood, hlater⟩⟩
        · exact ⟨scans, last, [], rfl, hlisted, hblock, by simp⟩
        · refine ⟨before, memory, later ++ [last], by simp, hmemory, hgood, ?_⟩
          intro next hnext
          rcases List.mem_append.mp hnext with hnext | hnext
          · exact hlater next hnext
          · rw [List.mem_singleton.mp hnext]
            exact ⟨hlisted, hnone⟩
      · rintro ⟨before, memory, later, hsplit, hlisted, hgood, hlater⟩
        -- The rescan that gave the block is the last one, or it stands before the last one.
        rcases List.eq_nil_or_concat later with rfl | ⟨later, final, rfl⟩
        · obtain ⟨rfl, heq⟩ := List.append_inj' hsplit rfl
          obtain rfl := List.singleton_inj.mp heq
          exact ⟨hlisted, Or.inl hgood⟩
        · rw [List.concat_eq_append, ← List.cons_append, ← List.append_assoc] at hsplit
          obtain ⟨rfl, heq⟩ := List.append_inj' hsplit rfl
          obtain rfl := List.singleton_inj.mp heq
          obtain ⟨hlast, hnone⟩ := hlater last (by simp)
          refine ⟨hlast, Or.inr ⟨hnone, before, memory, later, rfl, hlisted, hgood, ?_⟩⟩
          exact fun next hnext => hlater next (by simp [hnext])

/-- After any history that began with nothing, the store holds for a module the block that the
module gave at some rescan, provided that it was listed and gave no other block at any rescan since; and it
holds nothing else. -/
theorem store_last_good_block (settings : Settings) (steps : List Step) (module : Text)
    (block : Block) :
    ((fresh settings).after steps).store.get? module = some block ↔
      ∃ before memory later, scanned .empty steps = before ++ memory :: later ∧
        module ∈ memory.list ∧ memory.block? module = some block ∧
        ∀ next ∈ later, module ∈ next.list ∧ next.block? module = none := by
  have hopen : (fresh settings).isClosed = false := rfl
  have hsource : (fresh settings).source = .memory .empty := rfl
  rw [get?_after hopen hsource, ← foldl_retain_eq_some_iff]
  rfl

end CallAtlas.Session
