import CallAtlas.Proofs.Module.Visits
import CallAtlas.Proofs.Source.Listing

/-!
What listing and normalization have to do with each other.  Both read the head of a module
definition, listing with the name of the module around it, normalization with the full name that
listing gave.  Main statement: a listed module is found under its name, its head can be read again, and
its normalization keeps the name; it fails only for want of a body, or for a statement whose form has a
list inside.
-/

namespace CallAtlas

namespace Dotted

theorem append_dot_ne_empty (first second : Text) : first ++ "." ++ second ≠ "" := by
  intro heq
  have hdot : Text.points "." = [.char '.'] := by decide
  have hempty : Text.points "" = [] := by decide
  have hpoints := congrArg Text.points heq
  rw [Text.points_append, Text.points_append, hdot, hempty] at hpoints
  simp at hpoints

theorem eq_nil_of_join_eq_empty {first : Text} {rest : List Text} (hjoin : join (first :: rest) = "") :
    rest = [] := by
  cases rest with
  | nil => rfl
  | cons second rest =>
      rw [join_cons_cons] at hjoin
      exact (append_dot_ne_empty _ _ hjoin).elim

end Dotted

namespace Listing

/-- A name node from which listing reads a name can be read again with this name around it.  What is
read then stands in for the name only if the name is empty, and is empty too. -/
theorem Named.exists_parts {within : Option Text} {nameNode : Term} {name : Text}
    (hname : Named within nameNode name) :
    ∃ segments, Alias.parts (some name) nameNode = some segments ∧
      (if name.isEmpty then Dotted.join segments else name) = name := by
  suffices hparts : ∃ segments, Alias.parts (some name) nameNode = some segments ∧
      (name = "" → Dotted.join segments = "") by
    obtain ⟨segments, hparts, hempty⟩ := hparts
    refine ⟨segments, hparts, ?_⟩
    split
    · rename_i hname
      have hname : name = "" := eq_of_beq hname
      rw [hempty hname, hname]
    · rfl
  cases hname with
  | outermost info hown => exact ⟨_, Alias.parts_eq_some_iff.mpr (.inl ⟨hown, info, rfl⟩), id⟩
  | unprefixed info hown => exact ⟨_, Alias.parts_eq_some_iff.mpr (.inl ⟨hown, info, rfl⟩), id⟩
  | nested info hown hparent =>
      refine ⟨_, Alias.parts_eq_some_iff.mpr (.inl ⟨hown, info, rfl⟩), ?_⟩
      intro hempty
      exact (Dotted.append_dot_ne_empty _ _ hempty).elim
  | relative info moduleInfo moduleArgs own parent =>
      refine ⟨_, Alias.parts_eq_some_iff.mpr
        (.inr ⟨_, own, rfl, rfl, info, moduleInfo, moduleArgs, rfl⟩), ?_⟩
      intro hempty
      obtain rfl := Dotted.eq_nil_of_join_eq_empty hempty
      rw [Dotted.join_segments_append, hempty]
      rfl

end Listing

namespace Normal

/-- The options of a definition have a body. -/
def HasBody (options : Term) : Prop :=
  ∃ entries body, options = .list entries ∧ .tuple [.text "do", body] ∈ entries

/-- A term is a list, or a tuple with a list in it at any depth. -/
inductive HoldsList : Term → Prop
  | list (items : List Term) : HoldsList (.list items)
  | tuple {items : List Term} {item : Term} :
      item ∈ items → HoldsList item → HoldsList (.tuple items)

/-- A statement is a triple whose form is, or has inside, a list. -/
def HasListForm (statement : Term) : Prop :=
  ∃ form info args, statement = .tuple [form, info, args] ∧ HoldsList form

theorem anyHoldsList_eq_any (items : List Term) : anyHoldsList items = items.any holdsList := by
  induction items with
  | nil => rfl
  | cons item rest ih => rw [anyHoldsList, ih, List.any_cons]

theorem HoldsList.of_holdsList {term : Term} (hterm : holdsList term = true) : HoldsList term :=
  match term, hterm with
  | .list items, _ => .list items
  | .tuple items, hterm => by
      rw [holdsList, anyHoldsList_eq_any, List.any_eq_true] at hterm
      obtain ⟨item, hmem, hitem⟩ := hterm
      exact .tuple hmem (HoldsList.of_holdsList hitem)
termination_by sizeOf term
decreasing_by
  have hlt := List.sizeOf_lt_of_mem hmem
  simp only [Term.tuple.sizeOf_spec]
  omega

theorem holdsList_iff {term : Term} : holdsList term = true ↔ HoldsList term := by
  constructor
  · exact HoldsList.of_holdsList
  · intro hterm
    induction hterm with
    | list items => rfl
    | tuple hmem _ ih =>
        rw [holdsList, anyHoldsList_eq_any, List.any_eq_true]
        exact ⟨_, hmem, ih⟩

theorem hasListForm_iff {statement : Term} : hasListForm statement = true ↔ HasListForm statement := by
  constructor
  · intro hstatement
    unfold hasListForm at hstatement
    split at hstatement
    · rename_i form info args
      exact ⟨form, info, args, rfl, holdsList_iff.mp hstatement⟩
    · contradiction
  · rintro ⟨form, info, args, rfl, hform⟩
    exact holdsList_iff.mpr hform

theorem any_isBody_iff {entries : List Term} :
    entries.any isBody = true ↔ HasBody (.list entries) := by
  rw [List.any_eq_true]
  constructor
  · rintro ⟨entry, hmem, hentry⟩
    obtain ⟨body, rfl⟩ := Listing.isBody_iff.mp hentry
    exact ⟨entries, body, rfl, hmem⟩
  · rintro ⟨_, body, heq, hmem⟩
    obtain rfl := Term.list.inj heq
    exact ⟨_, hmem, rfl⟩

section Header

variable [Depths] {within : Option Text} {nameNode : Term} {name : Text} (info : Term)
  (hname : Listing.Named within nameNode name)
include hname

theorem header_of_hasBody {options : Term} (hbody : HasBody options) :
    header (.tuple [.text "defmodule", info, .list [nameNode, options]]) (some name) =
      .ok ⟨name, options.keyword "do", info⟩ := by
  obtain ⟨segments, hparts, hkept⟩ := hname.exists_parts
  obtain ⟨entries, body, rfl, hmem⟩ := hbody
  have hany : entries.any isBody = true := any_isBody_iff.mpr ⟨entries, body, rfl, hmem⟩
  simp only [header, hparts, hkept, hany, Option.getD_some, ne_eq, not_true_eq_false, if_false,
    if_true]

theorem header_of_not_hasBody {options : Term} (hbody : ¬ HasBody options) :
    header (.tuple [.text "defmodule", info, .list [nameNode, options]]) (some name) =
      .error (.noBody name) := by
  obtain ⟨segments, hparts, hkept⟩ := hname.exists_parts
  simp only [header, hparts, hkept, Option.getD_some, ne_eq, not_true_eq_false, if_false]
  split
  · rename_i entries
    exact if_neg (mt any_isBody_iff.mp hbody)
  · rfl

end Header

/-- Where no definition is nested too deep, a list in a form is the only fault. -/
theorem findSome?_statementFault? [Depths] {items : List Term}
    (hdepth : ∀ statement ∈ items, isTooDeep statement = false) :
    items.findSome? statementFault? =
      if items.any hasListForm then some NormalError.listForm else none := by
  induction items with
  | nil => rfl
  | cons first rest ih =>
      obtain ⟨hfirst, hrest⟩ := List.forall_mem_cons.mp hdepth
      cases hform : hasListForm first with
      | true => simp [statementFault?, hform]
      | false => simp [statementFault?, hform, hfirst, ih hrest]

section Outcome

variable [Depths] {node : Term} {module : Option Text} {head : Header}
  (hhead : header node module = .ok head)
  (hdepth : ∀ statement ∈ statements head.body, isTooDeep statement = false)
include hhead hdepth

theorem ofTree_of_hasListForm
    (hlist : ∃ statement ∈ statements head.body, HasListForm statement) :
    ofTree node module = .error .listForm := by
  have hany : (statements head.body).any hasListForm = true := by
    obtain ⟨statement, hmem, hform⟩ := hlist
    exact List.any_eq_true.mpr ⟨statement, hmem, hasListForm_iff.mpr hform⟩
  simp [ofTree, hhead, findSome?_statementFault? hdepth, hany, bind, Except.bind]

theorem exists_ofTree_of_not_hasListForm
    (hlist : ¬ ∃ statement ∈ statements head.body, HasListForm statement) :
    ∃ normal, ofTree node module = .ok normal ∧ normal.block.name = head.name := by
  have hany : (statements head.body).any hasListForm = false := by
    rw [Bool.eq_false_iff]
    intro hany
    obtain ⟨statement, hmem, hform⟩ := List.any_eq_true.mp hany
    exact hlist ⟨statement, hmem, hasListForm_iff.mp hform⟩
  simp [ofTree, hhead, findSome?_statementFault? hdepth, hany, bind, Except.bind]

end Outcome

theorem ofTree_of_header_error [Depths] {node : Term} {module : Option Text} {error : NormalError}
    (hhead : header node module = .error error) : ofTree node module = .error error := by
  simp [ofTree, hhead, bind, Except.bind]

/-- The scope in which the body of a module is read. -/
def Header.scope (head : Header) : Scope where
  module := head.name
  aliases := Alias.collect (some head.name) (statements head.body)

/-- The clauses of a block are those of the statements of its definition. -/
theorem exists_header_of_ofTree [Depths] {tree : Term} {module : Option Text} {normal : Normal}
    (h : ofTree tree module = .ok normal) :
    ∃ head, header tree module = .ok head ∧
      normal.block.clauses = (statements head.body).filterMap (clause? head.scope) := by
  simp only [ofTree, bind, Except.bind] at h
  split at h
  · contradiction
  · rename_i head hhead
    split at h
    · contradiction
    · obtain rfl := Except.ok.inj h
      exact ⟨head, hhead, rfl⟩

end Normal

namespace Term

theorem modules_eq_ok_iff {tree : Term} {parent : Option Text} {modules : List (Text × Term)} :
    tree.modules parent = .ok modules ↔ Listing.ofTree parent tree = ⟨modules, false⟩ := by
  rcases hlisting : Listing.ofTree parent tree with ⟨found, endless⟩
  cases endless <;> simp [Term.modules, hlisting]

theorem modules_ofTree_of_modules {tree : Term} {parent : Option Text} {modules : List (Text × Term)}
    (hmodules : tree.modules parent = .ok modules) :
    (Listing.ofTree parent tree).modules = modules := by
  rw [modules_eq_ok_iff.mp hmodules]

/-- A module found under a name is one of those listed with this name. -/
theorem exists_select_of_listed {tree node : Term} {modules : List (Text × Term)} {name : Text}
    (hmodules : tree.modules none = .ok modules) (hmem : (name, node) ∈ modules) :
    ∃ found, tree.select name = .ok (some found) ∧ (name, found) ∈ modules := by
  have hlisting := modules_ofTree_of_modules hmodules
  obtain ⟨found, hfound⟩ : ∃ found, tree.select name = .ok (some found) := by
    apply exists_select
    rw [hlisting]
    exact List.mem_map_of_mem hmem
  refine ⟨found, hfound, ?_⟩
  simp only [select] at hfound
  split at hfound
  · rename_i node hnode
    obtain rfl := Option.some.inj (Except.ok.inj hfound)
    rw [← hlisting]
    exact Table.mem_of_find hnode
  · split at hfound <;> simp at hfound

/-- A listed module is found under its name.  If none of its definitions is nested too deep it has a
block with this name, unless it has no body or a statement of its body has a list in its form. -/
theorem listed_is_selected_and_normalized [Depths] {tree node : Term}
    {modules : List (Text × Term)} {name : Text} (hmodules : tree.modules none = .ok modules)
    (hmem : (name, node) ∈ modules) :
    (∃ found, tree.select name = .ok (some found) ∧ (name, found) ∈ modules) ∧
      ∃ info nameNode options,
        node = .tuple [.text "defmodule", info, .list [nameNode, options]] ∧
          ((∀ statement ∈ Normal.statements (options.keyword "do"),
              Normal.isTooDeep statement = false) →
            (Normal.ofTree node (some name) = .error (.noBody name) ↔ ¬ Normal.HasBody options) ∧
            (Normal.ofTree node (some name) = .error .listForm ↔ Normal.HasBody options ∧
              ∃ statement ∈ Normal.statements (options.keyword "do"), Normal.HasListForm statement) ∧
            (∀ error, Normal.ofTree node (some name) = .error error →
              error = .noBody name ∨ error = .listForm) ∧
            (Normal.HasBody options →
              (¬ ∃ statement ∈ Normal.statements (options.keyword "do"),
                Normal.HasListForm statement) →
              ∃ normal, Normal.ofTree node (some name) = .ok normal ∧ normal.block.name = name)) := by
  refine ⟨exists_select_of_listed hmodules hmem, ?_⟩
  rw [← modules_ofTree_of_modules hmodules] at hmem
  obtain ⟨visit, _, hnode, info, nameNode, options, hpart, hname⟩ := Listing.exists_visit_of_mem hmem
  obtain rfl : node = .tuple [.text "defmodule", info, .list [nameNode, options]] := hnode.trans hpart
  refine ⟨info, nameNode, options, rfl, ?_⟩
  intro hdepth
  by_cases hbody : Normal.HasBody options
  · have hhead := Normal.header_of_hasBody info hname hbody
    by_cases hlist : ∃ statement ∈ Normal.statements (options.keyword "do"),
        Normal.HasListForm statement
    · rw [Normal.ofTree_of_hasListForm hhead hdepth hlist]
      simp [hbody, hlist]
    · obtain ⟨normal, hnormal, hblock⟩ :=
        Normal.exists_ofTree_of_not_hasListForm hhead hdepth hlist
      rw [hnormal]
      simp [hbody, hlist, hblock]
  · rw [Normal.ofTree_of_header_error (Normal.header_of_not_hasBody info hname hbody)]
    simp [hbody]

/-- A definition of `__MODULE__.Inner`. -/
def relativeInner : Term :=
  .tuple [.text "defmodule", .list [], .list [
    .tuple [.text "__aliases__", .list [], .list [
      .tuple [.text "__MODULE__", .list [], .null], .text "Inner"]],
    .list [.tuple [.text "do", .null]]]]

/-- Listing names the inner module by the outer one, and so it is found and normalized. -/
theorem relative_inner_is_selected_and_normalized :
    (moduleOf "Outer" relativeInner).modules none =
        .ok [("Outer", moduleOf "Outer" relativeInner), ("Outer.Inner", relativeInner)] ∧
      (∃ found, (moduleOf "Outer" relativeInner).select "Outer.Inner" = .ok (some found)) ∧
      ∃ normal, Normal.ofTree relativeInner (some "Outer.Inner") = .ok normal ∧
        normal.block.name = "Outer.Inner" := by
  have hmodules : (moduleOf "Outer" relativeInner).modules none =
      .ok [("Outer", moduleOf "Outer" relativeInner), ("Outer.Inner", relativeInner)] := by
    decide +kernel
  obtain ⟨⟨found, hfound, _⟩, info, nameNode, options, hnode, hnormal⟩ :=
    listed_is_selected_and_normalized hmodules (List.mem_cons_of_mem _ List.mem_cons_self)
  obtain rfl : options = .list [.tuple [.text "do", .null]] := by
    simp only [relativeInner, tuple.injEq, list.injEq, List.cons.injEq] at hnode
    exact hnode.2.2.1.2.1.symm
  obtain ⟨_, _, _, hok⟩ := hnormal (by decide)
  refine ⟨hmodules, ⟨found, hfound⟩, hok ⟨_, .null, rfl, List.mem_cons_self⟩ ?_⟩
  rintro ⟨statement, hstatement, _⟩
  exact List.not_mem_nil hstatement

end Term

end CallAtlas
