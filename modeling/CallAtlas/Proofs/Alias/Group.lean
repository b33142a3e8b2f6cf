import Mathlib.Data.List.Forall2
import CallAtlas.Proofs.Alias

/-!
Groups of aliases.  `alias Mod.{A, B}` stands for `alias Mod.A` followed by `alias Mod.B`: both put the
same names into the table, in the same order, so that one may be written for the other among any other
statements.

The front of a group has to be an alias node.  `alias __MODULE__.{A, B}` introduces no name, though
`alias __MODULE__.A` does.
-/

namespace CallAtlas.Alias

/-- An alias node with these segments. -/
def IsNode (segments : List Term) (node : Term) : Prop :=
  ∃ info, node = .tuple [.text "__aliases__", info, .list segments]

/-- A term as it stands, or alone in a block. -/
def Wraps (inner term : Term) : Prop :=
  term = inner ∨ ∃ info, term = .tuple [.text "__block__", info, .list [inner]]

/-- A grouped alias statement, by its front and the segments of each item.  The group may stand alone in
a block, and options may follow it. -/
def IsGroup (front : Term) (names : List (List Text)) (statement : Term) : Prop :=
  ∃ info dotInfo groupInfo items target options,
    List.Forall₂ (fun own item => IsNode (own.map .text) item) names items ∧
    Wraps (.tuple [.tuple [.text ".", dotInfo, .list [front, .text "\x7b\x7d"]], groupInfo,
      .list items]) target ∧
    statement = .tuple [.text "alias", info, .list (target :: options)]

/-- The segments that the front of a group puts before those of each item. -/
inductive Fronts : Term → List Term → Prop
  | node {segments : List Term} {front : Term} : IsNode segments front → Fronts front segments
  | current {front : Term} : front.hasForm "__MODULE__" = true → Fronts front [front]

/-- The alias statement for one item of a group. -/
def Expands (segments : List Term) (own : List Text) (statement : Term) : Prop :=
  ∃ info node, IsNode (segments ++ own.map .text) node ∧
    statement = .tuple [.text "alias", info, .list [node]]

/-- The name and the module that the segments after a front add. -/
def entry (front own : List Text) : Option (Text × Text) :=
  own.getLast?.map fun name => (name, Dotted.join (front ++ own))

/-- The texts that the first segment of a node stands for. -/
def leading (current : Option Text) : Term → Option (List Text)
  | .text segment => some [segment]
  | first => if first.hasForm "__MODULE__" then current.map Dotted.segments else none

section Parts

theorem texts?_append_texts (items : List Term) (own : List Text) :
    texts? (items ++ own.map .text) = (texts? items).map (· ++ own) := by
  induction items with
  | nil => simp [texts?]
  | cons item rest ih =>
      cases item with
      | text segment =>
          rw [List.cons_append, texts?, texts?, ih]
          cases texts? rest <;> rfl
      | _ => rfl

theorem parts_node (current : Option Text) (info first : Term) (rest : List Term) :
    parts current (.tuple [.text "__aliases__", info, .list (first :: rest)]) =
      (leading current first).bind fun front => (texts? rest).map (front ++ ·) := by
  cases first with
  | text segment => simp [parts, leading]
  | tuple items =>
      by_cases hmodule : (Term.tuple items).hasForm "__MODULE__" = true
      · cases current <;> simp [parts, leading, hmodule]
      · simp [parts, leading, hmodule]
  | _ => simp [parts, leading, Term.hasForm]

/-- Texts after the segments of a node come after its parts. -/
theorem parts_append {segments : List Term} (hsegments : segments ≠ []) {front node : Term}
    {own : List Text} (hfront : IsNode segments front)
    (hnode : IsNode (segments ++ own.map .text) node) (current : Option Text) :
    parts current node = (parts current front).map (· ++ own) := by
  obtain ⟨frontInfo, rfl⟩ := hfront
  obtain ⟨nodeInfo, rfl⟩ := hnode
  obtain ⟨first, rest, rfl⟩ := List.exists_cons_of_ne_nil hsegments
  rw [List.cons_append, parts_node, parts_node, texts?_append_texts]
  cases leading current first with
  | none => rfl
  | some lead => cases texts? rest <;> simp

/-- The current module alone is no alias node. -/
theorem parts_current {front : Term} (hfront : front.hasForm "__MODULE__" = true)
    (current : Option Text) : parts current front = none := by
  obtain ⟨info, args, rfl⟩ := Term.hasForm_iff.mp hfront
  apply parts_of_not_alias
  simp

/-- The parts of the node for an item, from the parts of the front.  They differ only for the current
module as a front, which has no parts but is the first segment of the node. -/
theorem parts_expanded {current : Option Text} {front node : Term} {segments : List Term}
    (hfront : Fronts front segments) (hsegments : segments ≠ [])
    (hcurrent : front.hasForm "__MODULE__" = true → current = none) {own : List Text}
    (hnode : IsNode (segments ++ own.map .text) node) :
    parts current node = (parts current front).map (· ++ own) := by
  cases hfront with
  | node hfront => exact parts_append hsegments hfront hnode current
  | current hmodule =>
      obtain ⟨info, rfl⟩ := hnode
      obtain rfl := hcurrent hmodule
      obtain ⟨moduleInfo, args, rfl⟩ := Term.hasForm_iff.mp hmodule
      rw [parts_current hmodule, List.singleton_append, parts_none_alias]
      rfl

theorem grouped_node {own : List Text} {item : Term} (hitem : IsNode (own.map .text) item)
    (front : List Text) : grouped front item = entry front own := by
  obtain ⟨info, rfl⟩ := hitem
  rcases own with _ | ⟨first, rest⟩
  · rfl
  · rw [grouped, List.map_cons, parts_none_alias, ← List.map_cons, texts?_map_text]
    rfl

theorem filterMap_grouped {names : List (List Text)} {items : List Term}
    (hitems : List.Forall₂ (fun own item => IsNode (own.map .text) item) names items)
    (front : List Text) : items.filterMap (grouped front) = names.filterMap (entry front) := by
  induction hitems with
  | nil => rfl
  | cons hitem _ ih => rw [List.filterMap_cons, List.filterMap_cons, grouped_node hitem, ih]

end Parts

section Introduced

theorem unwrap_of_wraps {inner term : Term} (hterm : Wraps inner term)
    (hinner : unwrap inner = inner) : unwrap term = inner := by
  rcases hterm with rfl | ⟨info, rfl⟩
  · exact hinner
  · rfl

theorem introduced_group {front group : Term} {names : List (List Text)}
    (hgroup : IsGroup front names group) (current : Option Text) :
    introduced current group =
      (parts current front).elim [] fun front => names.filterMap (entry front) := by
  obtain ⟨info, dotInfo, groupInfo, items, target, options, hitems, htarget, rfl⟩ := hgroup
  rw [introduced, if_neg (by simp), unwrap_of_wraps htarget rfl]
  dsimp only
  rw [show parts current _ = none from rfl, ofGroup, if_pos ⟨rfl, rfl⟩]
  cases parts current front with
  | none => rfl
  | some own => exact filterMap_grouped hitems own

theorem unwrap_node {segments : List Term} {node : Term} (hnode : IsNode segments node) :
    unwrap node = node := by
  obtain ⟨info, rfl⟩ := hnode
  rcases segments with _ | ⟨first, _ | ⟨next, rest⟩⟩
  · rfl
  · rw [unwrap, if_neg (by simp)]
  · rfl

theorem introduced_expanded {current : Option Text} {front statement : Term} {segments : List Term}
    (hfront : Fronts front segments) (hsegments : segments ≠ [])
    (hcurrent : front.hasForm "__MODULE__" = true → current = none) {own : List Text}
    (hown : own ≠ []) (hstatement : Expands segments own statement) :
    introduced current statement =
      (parts current front).elim [] fun front => (entry front own).toList := by
  obtain ⟨info, node, hnode, rfl⟩ := hstatement
  rw [introduced, if_neg (by simp), unwrap_node hnode]
  dsimp only
  rw [parts_expanded hfront hsegments hcurrent hnode]
  cases parts current front with
  | none =>
      obtain ⟨nodeInfo, rfl⟩ := hnode
      rfl
  | some lead =>
      obtain ⟨name, hname⟩ := Option.ne_none_iff_exists'.mp (mt List.getLast?_eq_none_iff.mp hown)
      have hlast : (lead ++ own).getLast? = some name := by simp [hname]
      simp [hlast, hname, chosenName, entry]

/-- The statements for the items introduce what the group does. -/
theorem flatMap_introduced {current : Option Text} {front : Term} {segments : List Term}
    (hfront : Fronts front segments) (hsegments : segments ≠ [])
    (hcurrent : front.hasForm "__MODULE__" = true → current = none) {names : List (List Text)}
    (hnames : ∀ own ∈ names, own ≠ []) {expansion : List Term}
    (hexpansion : List.Forall₂ (Expands segments) names expansion) :
    expansion.flatMap (introduced current) =
      (parts current front).elim [] fun front => names.filterMap (entry front) := by
  induction hexpansion with
  | nil => cases parts current front <;> rfl
  | @cons own statement rest _ hstatement _ ih =>
      rw [List.flatMap_cons, ih fun other hother => hnames other (List.mem_cons_of_mem own hother),
        introduced_expanded hfront hsegments hcurrent (hnames own List.mem_cons_self) hstatement]
      cases parts current front with
      | none => rfl
      | some lead =>
          simp only [Option.elim, List.filterMap_cons]
          cases entry lead own <;> rfl

/-- An item without segments adds nothing. -/
theorem filterMap_entry_filter (front : List Text) (names : List (List Text)) :
    (names.filter (· ≠ [])).filterMap (entry front) = names.filterMap (entry front) := by
  rw [List.filterMap_filter]
  congr 1
  funext own
  rcases own with _ | ⟨first, rest⟩ <;> simp [entry]

end Introduced

section Plain

/-! Nodes, groups and statements without positions. -/

def plainNode (segments : List Term) : Term := .tuple [.text "__aliases__", .list [], .list segments]

def plainGroup (front : Term) (names : List (List Text)) : Term :=
  .tuple [.tuple [.text ".", .list [], .list [front, .text "\x7b\x7d"]], .list [],
    .list (names.map fun own => plainNode (own.map .text))]

def plainAlias (target : Term) : Term := .tuple [.text "alias", .list [], .list [target]]

def currentModule : Term := .tuple [.text "__MODULE__", .list [], .null]

theorem isGroup_plainAlias {front target : Term} {names : List (List Text)}
    (htarget : Wraps (plainGroup front names) target) : IsGroup front names (plainAlias target) := by
  refine ⟨_, _, _, _, target, [], ?_, htarget, rfl⟩
  rw [List.forall₂_map_right_iff]
  exact List.forall₂_same.mpr fun own _ => ⟨_, rfl⟩

theorem forall₂_expands_plainAlias (segments : List Term) (names : List (List Text)) :
    List.Forall₂ (Expands segments) names
      (names.map fun own => plainAlias (plainNode (segments ++ own.map .text))) := by
  rw [List.forall₂_map_right_iff]
  exact List.forall₂_same.mpr fun own _ => ⟨_, _, ⟨_, rfl⟩, rfl⟩

end Plain

/-- A group may be replaced by the alias statements for its items, wherever it stands: the table stays
the same, with its keys in the same order.  Items without segments have no such statement.  If the front
is the current module, or has no segments, then the group introduces no name. -/
theorem collect_group (current : Option Text) (before after : List Term) {front group : Term}
    {names : List (List Text)} (hgroup : IsGroup front names group) :
    (∀ segments expansion, Fronts front segments → segments ≠ [] →
      (front.hasForm "__MODULE__" = true → current = none) →
      List.Forall₂ (Expands segments) (names.filter (· ≠ [])) expansion →
      collect current (before ++ group :: after) = collect current (before ++ expansion ++ after)) ∧
    (front.hasForm "__MODULE__" = true ∨ IsNode [] front →
      collect current (before ++ group :: after) = collect current (before ++ after)) := by
  constructor
  · intro segments expansion hfront hsegments hcurrent hexpansion
    have hnames : ∀ own ∈ names.filter (· ≠ []), own ≠ [] := by simp
    have hsame : introduced current group = expansion.flatMap (introduced current) := by
      rw [introduced_group hgroup,
        flatMap_introduced hfront hsegments hcurrent hnames hexpansion]
      simp only [filterMap_entry_filter]
    simp only [collect, List.flatMap_append, List.flatMap_cons, hsame, List.append_assoc]
  · intro hfront
    have hparts : parts current front = none := by
      rcases hfront with hmodule | ⟨info, rfl⟩
      · exact parts_current hmodule current
      · rfl
    have hnone : introduced current group = [] := by
      rw [introduced_group hgroup, hparts, Option.elim]
    simp only [collect, List.flatMap_append, List.flatMap_cons, hnone, List.nil_append]

/-- `alias __MODULE__.Web.{A, B.C}`, alone in a block. -/
def webGroup : Term :=
  plainAlias (.tuple [.text "__block__", .list [],
    .list [plainGroup (plainNode [currentModule, .text "Web"]) [["A"], ["B", "C"]]]])

/-- The statements for the items of `webGroup`, between an alias with the name of the first item and one
with the name of the second. -/
def webExpanded : List Term :=
  [plainAlias (plainNode [.text "Old", .text "A"]),
    plainAlias (plainNode [currentModule, .text "Web", .text "A"]),
    plainAlias (plainNode [currentModule, .text "Web", .text "B", .text "C"]),
    plainAlias (plainNode [.text "New", .text "C"])]

theorem collect_group_overriding :
    collect (some "My") [plainAlias (plainNode [.text "Old", .text "A"]), webGroup,
        plainAlias (plainNode [.text "New", .text "C"])] = collect (some "My") webExpanded ∧
    collect (some "My") webExpanded = .ofList [("A", "My.Web.A"), ("C", "New.C")] ∧
    collect (some "My") (plainAlias (plainGroup currentModule [["A"]]) :: webExpanded) =
      collect (some "My") webExpanded := by
  have hweb : IsGroup (plainNode [currentModule, .text "Web"]) [["A"], ["B", "C"]] webGroup :=
    isGroup_plainAlias (.inr ⟨_, rfl⟩)
  have hcurrent : IsGroup currentModule [["A"]] (plainAlias (plainGroup currentModule [["A"]])) :=
    isGroup_plainAlias (.inl rfl)
  refine ⟨?_, by decide, (collect_group (some "My") [] webExpanded hcurrent).2 (.inl rfl)⟩
  exact (collect_group (some "My") [_] [_] hweb).1 [currentModule, .text "Web"] _
    (.node ⟨_, rfl⟩) (by simp) (by decide) (forall₂_expands_plainAlias _ _)

/-- `alias __MODULE__.{A, B}` is not the same as `alias __MODULE__.A` and `alias __MODULE__.B`. -/
theorem collect_group_below_current :
    Fronts currentModule [currentModule] ∧
    IsGroup currentModule [["A"], ["B"]] (plainAlias (plainGroup currentModule [["A"], ["B"]])) ∧
    List.Forall₂ (Expands [currentModule]) [["A"], ["B"]]
      [plainAlias (plainNode [currentModule, .text "A"]),
        plainAlias (plainNode [currentModule, .text "B"])] ∧
    collect (some "My.App") [plainAlias (plainGroup currentModule [["A"], ["B"]])] = .empty ∧
    collect (some "My.App") [plainAlias (plainNode [currentModule, .text "A"]),
        plainAlias (plainNode [currentModule, .text "B"])] =
      .ofList [("A", "My.App.A"), ("B", "My.App.B")] := by
  refine ⟨.current rfl, isGroup_plainAlias (.inl rfl), ?_, by decide, by decide⟩
  exact forall₂_expands_plainAlias [currentModule] [["A"], ["B"]]

end CallAtlas.Alias
