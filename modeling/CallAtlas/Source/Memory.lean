import CallAtlas.Module.Listing

/-!
Trees held in memory, by module.
-/

namespace CallAtlas

/-- The trees of modules, in the order in which the modules were first given. -/
structure Memory where
  trees : Table Text Term
deriving Repr, DecidableEq, Inhabited

namespace Memory

def empty : Memory := ⟨.empty⟩

def ofList (trees : List (Text × Term)) : Memory := ⟨.ofList trees⟩

def set (memory : Memory) (module : Text) (tree : Term) : Memory :=
  ⟨memory.trees.insert module tree⟩

def forget (memory : Memory) (module : Text) : Memory := ⟨memory.trees.erase module⟩

/-- Sets every module that a tree defines.  If the search for them never ends, those before the
endless place are set. -/
def add (memory : Memory) (tree : Term) : Memory :=
  (Listing.ofTree none tree).modules.foldl (fun memory (name, node) => memory.set name node) memory

/-- The names that `add` sets, in order. -/
def added (tree : Term) : Except Endless (List Text) :=
  (tree.modules none).map fun modules => modules.map Prod.fst

/-- The modules, in the order in which they were first given. -/
def list (memory : Memory) : List Text := memory.trees.keys

/-- The tree of a module; a missing tree may also be given as `null`. -/
def resolve (memory : Memory) (module : Text) : Option Term :=
  (memory.trees.get? module).filter fun tree => !tree.isNull

end Memory

end CallAtlas
