import CallAtlas.Module.Block
import CallAtlas.Text.Sorted

/-!
The store: the blocks of all normalized modules.
-/

namespace CallAtlas

/-- Blocks by the name of their module. -/
structure Store where
  blocks : Table Text Block
deriving Repr, DecidableEq, Inhabited

/-- A module without a block. -/
structure ModuleMissing where
  module : Text
deriving Repr, DecidableEq, Inhabited

def ModuleMissing.message (fault : ModuleMissing) : Text :=
  "Module '" ++ fault.module ++ "' not found"

namespace Store

def empty : Store := ⟨.empty⟩

def get? (store : Store) (module : Text) : Option Block := store.blocks.get? module

/-- The block of a module that has to be there. -/
def lookup (store : Store) (module : Text) : Except ModuleMissing Block :=
  match store.get? module with
  | some block => .ok block
  | none => .error ⟨module⟩

def put (store : Store) (module : Text) (block : Block) : Store :=
  ⟨store.blocks.insert module block⟩

def remove (store : Store) (module : Text) : Store := ⟨store.blocks.erase module⟩

def contains (store : Store) (module : Text) : Bool := store.blocks.contains module

def size (store : Store) : Nat := store.blocks.size

/-- The names of the stored modules, in code point order. -/
def names (store : Store) : List Text := sortNames store.blocks.keys

@[simp] theorem get?_empty (module : Text) : empty.get? module = none := rfl

theorem get?_put (store : Store) (module other : Text) (block : Block) :
    (store.put module block).get? other =
      if module = other then some block else store.get? other :=
  Table.get?_insert store.blocks module other block

theorem get?_remove (store : Store) (module other : Text) :
    (store.remove module).get? other = if module = other then none else store.get? other :=
  Table.get?_erase store.blocks module other

end Store

end CallAtlas
