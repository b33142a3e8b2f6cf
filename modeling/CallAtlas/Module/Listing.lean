import CallAtlas.Alias

/-!
The modules that a quoted tree defines, outer modules before the modules inside them.

Blocks are searched statement by statement.  A block without a statement list has no end: the search
for modules never comes past it, and the listing says so.
-/

namespace CallAtlas

/-- The modules found, by full name and defining node, and whether the search never ends. -/
structure Listing where
  modules : List (Text × Term) := []
  endless : Bool := false
deriving Repr, DecidableEq, Inhabited

namespace Listing

/-- One listing after the other; nothing is found after an endless one. -/
def append (first second : Listing) : Listing :=
  if first.endless then first else ⟨first.modules ++ second.modules, second.endless⟩

instance : Append Listing := ⟨append⟩

/-- The full name of a module from its name node and the enclosing module. -/
def fullName (parent : Option Text) (nameNode : Term) : Option Text :=
  match Alias.parts none nameNode with
  | some own =>
    match parent with
    | some parent =>
      if parent.isEmpty then some (Dotted.join own)
      else some (Dotted.join (Dotted.segments parent ++ own))
    | none => some (Dotted.join own)
  | none => (Alias.parts parent nameNode).map Dotted.join

mutual
/-- The modules of a tree inside the module `parent`. -/
def ofTree (parent : Option Text) : Term → Listing
  | .tuple [.text form, info, args] =>
    if form = "__block__" then
      match args with
      | .list statements => ofStatements parent statements
      | _ => { endless := true }
    else if form = "defmodule" then
      match args with
      | .list [nameNode, options] =>
        match fullName parent nameNode with
        | some name =>
          { modules := [(name, .tuple [.text form, info, .list [nameNode, options]])] }
            ++ (match options with
                | .list entries => ofBody name entries
                | _ => {})
        | none => {}
      | _ => {}
    else {}
  | _ => {}

def ofStatements (parent : Option Text) : List Term → Listing
  | [] => {}
  | statement :: rest => ofTree parent statement ++ ofStatements parent rest

/-- The modules of a module's body, which its keyword list holds. -/
def ofBody (name : Text) : List Term → Listing
  | [] => {}
  | .tuple [.text key, body] :: rest =>
    if key = "do" then ofTree (some name) body else ofBody name rest
  | _ :: rest => ofBody name rest
end

end Listing

/-- A search that never ends. -/
structure Endless where
deriving Repr, DecidableEq, Inhabited

namespace Term

/-- The modules of a tree, or the fact that the search for them never ends. -/
def modules (tree : Term) (parent : Option Text) : Except Endless (List (Text × Term)) :=
  let listing := Listing.ofTree parent tree
  if listing.endless then .error {} else .ok listing.modules

/-- The first definition of a module in a tree.  The search ends where the module is found. -/
def select (tree : Term) (name : Text) : Except Endless (Option Term) :=
  let listing := Listing.ofTree none tree
  match Table.find name listing.modules with
  | some node => .ok (some node)
  | none => if listing.endless then .error {} else .ok none

end Term

end CallAtlas
