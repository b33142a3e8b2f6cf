import CallAtlas.Proofs.Node.Rewriting
import CallAtlas.Proofs.Reformat.Tree

/-!
The calls of a quoted tree up to metadata.  Classification reads no metadata but positions and the
mark for calls without parentheses, so that the node of a bare tree is the node of the tree without
its positions, and the calls are the same calls without theirs.
-/

namespace CallAtlas

theorem Position.ofMeta_bareInfo (info : Term) : ofMeta (Term.bareInfo info) = none := by
  cases info with
  | list entries =>
      cases hmark : Node.noParens (.list entries) <;>
        rw [Term.bareInfo, Term.reduceInfo, hmark] <;> rfl
  | _ => rfl

/-- A call without its position. -/
def Call.bare (call : Call) : Call := { call with position := none }

namespace Node

mutual
/-- A node without positions. -/
def bare : Node → Node
  | .leaf name _ => .leaf name none
  | .qualified target name arity args receiver _ =>
    .qualified target name arity (bareAll args)
      (match receiver with
        | some receiver => some (bare receiver)
        | none => none)
      none
  | .unqualified name arity args _ => .unqualified name arity (bareAll args) none
  | .pipeline left right => .pipeline (bare left) (bare right)
  | .withChain clauses body otherwise =>
    .withChain (bareAll clauses) (bare body)
      (match otherwise with
        | some otherwise => some (bare otherwise)
        | none => none)
  | .grouping nodes => .grouping (bareAll nodes)
  | .sequence nodes => .sequence (bareAll nodes)
  | .block nodes => .block (bareAll nodes)
  | .foreign kind => .foreign kind

def bareAll : List Node → List Node
  | [] => []
  | node :: rest => bare node :: bareAll rest
end

mutual
/-- A node without positions has the alias segments it had. -/
theorem bare_eq_map (node : Node) : bare node = map id (fun _ => none) node := by
  cases node with
  | qualified target name arity args receiver position =>
      have hargs := bareAll_eq_mapAll args
      have htarget : target.mapAlias id = target := by cases target <;> rfl
      cases receiver with
      | none => rw [bare, map, hargs, htarget]
      | some receiver => rw [bare, map, hargs, htarget, bare_eq_map receiver]
  | unqualified name arity args position => rw [bare, map, bareAll_eq_mapAll args]
  | pipeline left right => rw [bare, map, bare_eq_map left, bare_eq_map right]
  | withChain clauses body otherwise =>
      have hclauses := bareAll_eq_mapAll clauses
      cases otherwise with
      | none => rw [bare, map, hclauses, bare_eq_map body]
      | some otherwise => rw [bare, map, hclauses, bare_eq_map body, bare_eq_map otherwise]
  | grouping nodes | sequence nodes | block nodes => rw [bare, map, bareAll_eq_mapAll nodes]
  | leaf name position | foreign kind => rfl

theorem bareAll_eq_mapAll (nodes : List Node) :
    bareAll nodes = mapAll id (fun _ => none) nodes := by
  cases nodes with
  | nil => rfl
  | cons node rest => rw [bareAll, mapAll, bare_eq_map node, bareAll_eq_mapAll rest]
end

end Node

theorem Position.ofMeta_withoutNoParens_bareInfo (info : Term) :
    ofMeta (Node.withoutNoParens (Term.bareInfo info)) = none := by
  cases info with
  | list entries =>
      cases hmark : Node.noParens (.list entries) <;>
        rw [Term.bareInfo, Term.reduceInfo, hmark] <;> rfl
  | _ => rfl

/-- Taking away metadata is a rewriting, which leaves no positions. -/
def Rewriting.bare : Rewriting where
  tree := Term.bare
  info := Term.bareInfo
  segments := id
  position := fun _ => none
  tree_scalar term hlist htuple := by
    cases term with
    | list items => exact absurd rfl (hlist items)
    | tuple items => exact absurd rfl (htuple items)
    | _ => rfl
  tree_list := Term.bare_list
  tree_tuple items hitems := by rw [Term.bare_tuple, Term.bareParts_of_length_ne hitems]
  tree_node head mark args _ := Term.bare_triple head mark args
  tree_alias mark items := ⟨items.map Term.bare, by simp⟩
  parts_tree term := by simp
  currentSegments_tree := Alias.currentSegments_bare
  ofMeta_info := Position.ofMeta_bareInfo
  ofMeta_unmarked := Position.ofMeta_withoutNoParens_bareInfo
  noParens_info := Term.noParens_bareInfo
  position_none := rfl
  position_or _ _ := rfl

namespace Node

/-- The node of a bare tree is the node of the tree without positions. -/
theorem classify_bare (term : Term) : classify term.bare = (classify term).bare := by
  rw [bare_eq_map]
  exact Rewriting.bare.classify_tree term

/-- The calls of a node without positions are its calls without positions. -/
theorem calls_bare (scope : Scope) (piped : Bool) (node : Node) :
    calls scope piped node.bare = (calls scope piped node).map Call.bare := by
  rw [bare_eq_map]
  apply calls_map
  intro target
  cases target <;> rfl

theorem deeperThan_bare (limit : Nat) (node : Node) :
    node.bare.deeperThan limit = node.deeperThan limit := by
  rw [bare_eq_map, deeperThan_map]

end Node

end CallAtlas
