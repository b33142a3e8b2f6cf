import CallAtlas.Proofs.Alias
import CallAtlas.Proofs.Node.Closed
import CallAtlas.Proofs.Node.Rewriting
import CallAtlas.Proofs.Text.Dotted

/-!
Short names and the names behind them.  `Term.expand` writes out every short name of a tree that an
alias table knows.  A tree that is read against the table makes the calls that its expansion makes
against no table at all: what the table says of names, the expansion says in the tree.
-/

namespace CallAtlas

namespace Alias

/-- The segments of the name behind an alias of one segment that the table knows; other segments
stay. -/
def expandSegments (aliases : Table Text Text) : List Text → List Text
  | [short] =>
    match aliases.get? short with
    | some name => Dotted.segments name
    | none => [short]
  | segments => segments

/-- The segments of the name behind a node, from its form and its arguments, if it is an alias of
one segment that the table knows. -/
def expansion? (aliases : Table Text Text) : Term → Term → Option (List Text)
  | .text form, .list [.text short] =>
    if form = "__aliases__" then (aliases.get? short).map Dotted.segments else none
  | _, _ => none

end Alias

namespace Term

mutual
/-- A tree in which every alias node of one segment that the table knows has the segments of the
name behind it.  Metadata stays as it is. -/
def expand (aliases : Table Text Text) : Term → Term
  | .list items => .list (expandAll aliases items)
  | .tuple items => .tuple (expandParts aliases items)
  | term => term

def expandAll (aliases : Table Text Text) : List Term → List Term
  | [] => []
  | item :: rest => expand aliases item :: expandAll aliases rest

/-- The parts of a tuple; the second of three is metadata. -/
def expandParts (aliases : Table Text Text) : List Term → List Term
  | [head, info, args] =>
    match Alias.expansion? aliases head args with
    | some segments => [head, info, .list (segments.map .text)]
    | none => [expand aliases head, info, expand aliases args]
  | [] => []
  | item :: rest => expand aliases item :: expandAll aliases rest
end

variable (aliases : Table Text Text)

theorem expandAll_eq_map (items : List Term) :
    expandAll aliases items = items.map (expand aliases) := by
  induction items with
  | nil => rfl
  | cons item rest ih => rw [expandAll, ih, List.map_cons]

@[simp] theorem expand_list (items : List Term) :
    expand aliases (.list items) = .list (items.map (expand aliases)) := by
  rw [expand, expandAll_eq_map]

@[simp] theorem expand_text (value : Text) : expand aliases (.text value) = .text value := rfl

theorem expand_tuple {items : List Term} (hitems : items.length ≠ 3) :
    expand aliases (.tuple items) = .tuple (items.map (expand aliases)) := by
  rw [← expandAll_eq_map]
  match items with
  | [] | [_] | [_, _] | _ :: _ :: _ :: _ :: _ => rfl
  | [_, _, _] => exact absurd rfl hitems

variable {aliases}

theorem expand_triple {head args : Term} (hnone : Alias.expansion? aliases head args = none)
    (info : Term) :
    expand aliases (.tuple [head, info, args]) =
      .tuple [expand aliases head, info, expand aliases args] := by
  rw [expand, expandParts, hnone]

theorem expand_alias {head args : Term} {segments : List Text}
    (hsome : Alias.expansion? aliases head args = some segments) (info : Term) :
    expand aliases (.tuple [head, info, args]) =
      .tuple [head, info, .list (segments.map .text)] := by
  rw [expand, expandParts, hsome]

theorem expand_eq_text_iff (term : Term) (text : Text) :
    expand aliases term = .text text ↔ term = .text text := by
  cases term <;> simp [expand]

theorem exists_expand_eq_list_iff {term : Term} :
    (∃ items, expand aliases term = .list items) ↔ ∃ items, term = .list items := by
  cases term <;> simp [expand]

theorem expand_scalar {term : Term} (hlist : ∀ items, term ≠ .list items)
    (htuple : ∀ items, term ≠ .tuple items) : expand aliases term = term := by
  cases term with
  | list items => exact absurd rfl (hlist items)
  | tuple items => exact absurd rfl (htuple items)
  | _ => rfl

end Term

namespace Alias

variable {aliases : Table Text Text}

/-- Only an alias of one segment that the table knows is written out. -/
theorem exists_of_expansion? {head args : Term} {segments : List Text}
    (h : expansion? aliases head args = some segments) :
    head = .text "__aliases__" ∧ ∃ short name, args = .list [.text short] ∧
      aliases.get? short = some name ∧ Dotted.segments name = segments := by
  unfold expansion? at h
  split at h
  · split_ifs at h with hform
    obtain ⟨name, hname, hsegments⟩ := Option.map_eq_some_iff.mp h
    exact ⟨by rw [hform], _, name, rfl, hname, hsegments⟩
  · contradiction

theorem expansion?_eq_none {head args : Term}
    (h : ¬ (head = .text "__aliases__" ∧ ∃ items, args = .list items)) :
    expansion? aliases head args = none := by
  rw [Option.eq_none_iff_forall_ne_some]
  intro segments hsome
  obtain ⟨hhead, short, _, hargs, _⟩ := exists_of_expansion? hsome
  exact h ⟨hhead, [.text short], hargs⟩

theorem hasForm_expand (form : Text) (term : Term) :
    (term.expand aliases).hasForm form = term.hasForm form := by
  induction term using Term.tripleCases with
  | triple head info args =>
      cases hexpansion : expansion? aliases head args with
      | some segments =>
          obtain ⟨rfl, _⟩ := exists_of_expansion? hexpansion
          rw [Term.expand_alias hexpansion]
          rfl
      | none =>
          rw [Term.expand_triple hexpansion]
          cases head <;> rfl
  | unit | single _ | pair _ _ | many _ _ _ _ _ =>
      rw [Term.expand_tuple aliases (by simp)]
      simp [Term.hasForm]
  | _ => rfl

/-- Segments that are not written out stay. -/
theorem expandSegments_of_expansion? {items : List Term} {segments : List Text}
    (hnone : expansion? aliases (.text "__aliases__") (.list items) = none)
    (hsegments : texts? items = some segments) : expandSegments aliases segments = segments := by
  obtain rfl := eq_map_text_of_texts? hsegments
  match segments with
  | [short] =>
      have hshort : aliases.get? short = none := by simpa [expansion?] using hnone
      rw [expandSegments, hshort]
  | [] | _ :: _ :: _ => rfl

theorem parts_expand_alias (info : Term) (items : List Term) :
    parts none (Term.expand aliases (.tuple [.text "__aliases__", info, .list items])) =
      (parts none (.tuple [.text "__aliases__", info, .list items])).map
        (expandSegments aliases) := by
  cases hexpansion : expansion? aliases (.text "__aliases__") (.list items) with
  | some segments =>
      obtain ⟨_, short, name, hitems, hname, rfl⟩ := exists_of_expansion? hexpansion
      obtain rfl := Term.list.inj hitems
      obtain ⟨first, rest, hsegments⟩ := List.exists_cons_of_ne_nil (Dotted.segments_ne_nil name)
      rw [Term.expand_alias hexpansion, hsegments, List.map_cons, parts_none_alias, ← List.map_cons,
        texts?_map_text, ← hsegments]
      simp [parts_none_alias, texts?, expandSegments, hname]
  | none =>
      rw [Term.expand_triple hexpansion, Term.expand_text, Term.expand_list]
      cases items with
      | nil => rfl
      | cons first rest =>
          rw [List.map_cons, parts_none_alias, ← List.map_cons,
            texts?_map Term.expand_eq_text_iff, parts_none_alias]
          cases hsegments : texts? (first :: rest) with
          | none => rfl
          | some segments =>
              rw [Option.map_some, expandSegments_of_expansion? hexpansion hsegments]

/-- The segments of an alias are written out. -/
theorem parts_expand (term : Term) :
    parts none (term.expand aliases) = (parts none term).map (expandSegments aliases) := by
  induction term using Term.tripleCases with
  | triple head info args =>
      by_cases halias : head = .text "__aliases__" ∧ ∃ items, args = .list items
      · obtain ⟨rfl, items, rfl⟩ := halias
        exact parts_expand_alias info items
      · have hother : ¬ (head.expand aliases = .text "__aliases__" ∧
            ∃ items, args.expand aliases = .list items) := by
          rwa [Term.expand_eq_text_iff, Term.exists_expand_eq_list_iff]
        rw [Term.expand_triple (expansion?_eq_none halias), parts_of_not_alias hother,
          parts_of_not_alias halias]
        rfl
  | unit | single _ | pair _ _ | many _ _ _ _ _ =>
      rw [Term.expand_tuple aliases (by simp)]
      simp [parts]
  | _ => rfl

theorem currentSegments_expand (term : Term) :
    currentSegments (term.expand aliases) = currentSegments term := by
  induction term using Term.tripleCases with
  | triple head info args =>
      cases hexpansion : expansion? aliases head args with
      | some segments =>
          obtain ⟨rfl, short, name, rfl, _⟩ := exists_of_expansion? hexpansion
          rw [Term.expand_alias hexpansion]
          cases segments <;> rfl
      | none =>
          rw [Term.expand_triple hexpansion]
          cases head with
          | text form =>
              cases args with
              | list items =>
                  cases items with
                  | nil => rfl
                  | cons first rest =>
                      simp [currentSegments, hasForm_expand, textsOf_map Term.expand_eq_text_iff]
              | _ => rfl
          | _ => rfl
  | unit | single _ | pair _ _ | many _ _ _ _ _ =>
      rw [Term.expand_tuple aliases (by simp)]
      simp [currentSegments]
  | _ => rfl

end Alias

/-- Writing out the short names of a table is a rewriting. -/
def Rewriting.expansion (aliases : Table Text Text) : Rewriting where
  tree := Term.expand aliases
  info := id
  segments := Alias.expandSegments aliases
  position := id
  tree_scalar _ hlist htuple := Term.expand_scalar hlist htuple
  tree_list items := Term.expand_list aliases items
  tree_tuple _ hitems := Term.expand_tuple aliases hitems
  tree_node head mark args hform := by
    apply Term.expand_triple
    apply Alias.expansion?_eq_none
    rintro ⟨hhead, items, hargs⟩
    exact hform hhead items hargs
  tree_alias mark items := by
    cases hexpansion : Alias.expansion? aliases (.text "__aliases__") (.list items) with
    | some segments => exact ⟨_, Term.expand_alias hexpansion mark⟩
    | none =>
        refine ⟨items.map (Term.expand aliases), ?_⟩
        rw [Term.expand_triple hexpansion, Term.expand_text, Term.expand_list]
        rfl
  parts_tree := Alias.parts_expand
  currentSegments_tree := Alias.currentSegments_expand
  ofMeta_info _ := rfl
  ofMeta_unmarked _ := rfl
  noParens_info _ := rfl
  position_none := rfl
  position_or _ _ := rfl

/-- The segments of a name stand for the name, where no table knows a short name. -/
theorem Scope.resolve_segments (module name : Text) :
    Scope.resolve ⟨module, .empty⟩ (.alias (Dotted.segments name)) = some name := by
  match hsegments : Dotted.segments name with
  | [] => exact absurd hsegments (Dotted.segments_ne_nil name)
  | [segment] =>
      have hjoin := Dotted.join_segments name
      rw [hsegments] at hjoin
      exact congrArg some hjoin
  | _ :: _ :: _ =>
      rw [Scope.resolve, ← hsegments, Dotted.join_segments]
      simp

/-- A name that is written out means without a table what it meant with the table. -/
theorem Scope.resolve_expandSegments (module : Text) (aliases : Table Text Text) (target : Target) :
    Scope.resolve ⟨module, .empty⟩ (target.mapAlias (Alias.expandSegments aliases)) =
      Scope.resolve ⟨module, aliases⟩ target := by
  match target with
  | .alias [short] =>
      cases hname : aliases.get? short with
      | none => simp [Target.mapAlias, Alias.expandSegments, Scope.resolve, hname]
      | some name =>
          have hsegments := resolve_segments module name
          simpa [Target.mapAlias, Alias.expandSegments, hname, Scope.resolve] using hsegments
  | .alias [] | .alias (_ :: _ :: _) => rfl
  | .atom _ | .current _ | .dynamic | .nameless => rfl

namespace Node

/-- Short names are transparent: the calls of a tree, read against an alias table, are the calls of
the tree with the names written out, read against no table. -/
theorem extract_expand (module : Text) (aliases : Table Text Text) (tree : Term) :
    ∃ calls, (classify tree).extract ⟨module, aliases⟩ = .ok calls ∧
      (classify (tree.expand aliases)).extract ⟨module, .empty⟩ = .ok calls := by
  have hnode : classify (tree.expand aliases) =
      (classify tree).map (Alias.expandSegments aliases) id :=
    (Rewriting.expansion aliases).classify_tree tree
  have hcalls : calls ⟨module, .empty⟩ false (classify (tree.expand aliases)) =
      calls ⟨module, aliases⟩ false (classify tree) := by
    rw [hnode, calls_map id (Scope.resolve_expandSegments module aliases)]
    exact List.map_id _
  refine ⟨calls ⟨module, aliases⟩ false (classify tree), extract_classify _ tree, ?_⟩
  rw [extract_classify, hcalls]

end Node

end CallAtlas
