import Mathlib.Data.List.Basic
import CallAtlas.Proofs.Alias
import CallAtlas.Proofs.Node.Shape

/-!
The parts of a tree and what they say by themselves: the names that stand in it, the arities with
which it captures functions, the atoms whose functions it calls.  Each of these is a list, so that
it can be found out for a given tree what stands in it.  What classification reads off a part stands
in the lists of the tree.
-/

namespace CallAtlas.Term

mutual
/-- The parts of a tree: the tree, and the parts of its items. -/
def parts : Term → List Term
  | .list items => .list items :: partsAll items
  | .tuple items => .tuple items :: partsAll items
  | term => [term]

def partsAll : List Term → List Term
  | [] => []
  | item :: rest => item.parts ++ partsAll rest
end

/-- The items of a list or a tuple. -/
def items : Term → List Term
  | .list items | .tuple items => items
  | _ => []

/-- The name that a dot selects, from what stands around it. -/
def selected? : List Term → Option Text
  | [_, .text name] => some name
  | _ => none

/-- The names that a node has itself: its form, what it selects if it is a dot, and its segments if
it is the name of a module. -/
def ownNames (term : Term) : List Text :=
  match term with
  | .tuple [.text form, _, _] =>
    form :: ((Node.dotOperands? term).bind selected?).toList
      ++ Alias.textsOf ((Node.formArgs? "__aliases__" term).getD [])
  | _ => []

/-- The names that stand in a tree. -/
def names (tree : Term) : List Text := tree.parts.flatMap ownNames

/-- No name in the tree is empty. -/
def IsNamed (tree : Term) : Prop := (Text.plain "") ∉ tree.names

instance (tree : Term) : Decidable tree.IsNamed := inferInstanceAs (Decidable (_ ∉ tree.names))

/-- The arity with which a node captures a function. -/
def capturedArity? (term : Term) : Option Int :=
  (Node.formArgs? "&" term).bind fun items => (Node.captureParts? items).map Prod.snd

/-- The arities with which functions are captured in a tree. -/
def capturedArities (tree : Term) : List Int := tree.parts.filterMap capturedArity?

/-- The atom from which a dot selects a name. -/
def selectedAtom? (term : Term) : Option Text :=
  match Node.dotOperands? term with
  | some [.text atom, .text _] => some atom
  | _ => none

/-- The atoms whose functions are called or captured in a tree. -/
def selectedAtoms (tree : Term) : List Text := tree.parts.filterMap selectedAtom?

section Parts

theorem mem_partsAll {part : Term} {items : List Term} :
    part ∈ partsAll items ↔ ∃ item ∈ items, part ∈ item.parts := by
  induction items with
  | nil => simp [partsAll]
  | cons item rest ih => simp [partsAll, ih]

theorem mem_parts {part term : Term} :
    part ∈ term.parts ↔ part = term ∨ ∃ item ∈ term.items, part ∈ item.parts := by
  cases term <;> simp [parts, items, mem_partsAll]

theorem self_mem_parts (term : Term) : term ∈ term.parts := mem_parts.mpr (.inl rfl)

theorem item_mem_parts {item term : Term} (hitem : item ∈ term.items) : item ∈ term.parts :=
  mem_parts.mpr (.inr ⟨item, hitem, item.self_mem_parts⟩)

theorem sizeOf_lt_of_mem_items {item term : Term} (hitem : item ∈ term.items) :
    sizeOf item < sizeOf term := by
  have hsize := List.sizeOf_lt_of_mem hitem
  cases term with
  | list inner | tuple inner =>
      simp only [items, list.sizeOf_spec, tuple.sizeOf_spec] at hsize ⊢
      omega
  | _ => contradiction

/-- A part of a part is a part. -/
theorem mem_parts_trans {part middle : Term} (hpart : part ∈ middle.parts) {tree : Term}
    (hmiddle : middle ∈ tree.parts) : part ∈ tree.parts := by
  revert hmiddle
  refine Node.forall_of_below (Q := fun tree => middle ∈ tree.parts → part ∈ tree.parts) ?_ tree
  intro tree hbelow hmiddle
  rcases mem_parts.mp hmiddle with rfl | ⟨item, hitem, hmiddle⟩
  · exact hpart
  · have hinner := hbelow item (sizeOf_lt_of_mem_items hitem) hmiddle
    exact mem_parts.mpr (.inr ⟨item, hitem, hinner⟩)

/-- The arguments of a node are parts of it. -/
theorem arg_mem_parts {form info : Term} {args : List Term} {arg : Term} (harg : arg ∈ args) :
    arg ∈ (tuple [form, info, .list args]).parts := by
  have hargs : list args ∈ (tuple [form, info, .list args]).parts :=
    item_mem_parts (by simp [items])
  have hlist : arg ∈ (list args).parts := item_mem_parts harg
  exact mem_parts_trans hlist hargs

end Parts

section Lookups

theorem mem_parts_of_formArgs {form : Text} {term : Term} {items : List Term}
    (h : Node.formArgs? form term = some items) {item : Term} (hitem : item ∈ items) :
    item ∈ term.parts := by
  unfold Node.formArgs? at h
  split at h
  · split at h
    · obtain rfl := Option.some.inj h
      exact arg_mem_parts hitem
    · contradiction
  · contradiction

theorem mem_parts_of_guardOperands {pattern : Term} {operands : List Term}
    (h : Node.guardOperands? pattern = some operands) {operand : Term}
    (hoperand : operand ∈ operands) : operand ∈ pattern.parts := by
  rw [Node.guardOperands?_eq] at h
  split at h
  · exact mem_parts_trans (mem_parts_of_formArgs h hoperand) (item_mem_parts (by simp [items]))
  · contradiction

theorem mem_parts_of_captureParts {items : List Term} {callee : Term} {arity : Int}
    (h : Node.captureParts? items = some (callee, arity)) :
    ∃ item ∈ items, callee ∈ item.parts := by
  rw [Node.captureParts?_eq] at h
  split at h
  · split at h
    · rename_i hargs
      simp only [Option.some.injEq, Prod.mk.injEq] at h
      obtain ⟨rfl, _⟩ := h
      exact ⟨_, List.mem_singleton_self _, mem_parts_of_formArgs hargs List.mem_cons_self⟩
    · contradiction
  · contradiction

theorem boundValue_mem_parts (arg : Term) : Node.boundValue arg ∈ arg.parts := by
  rw [Node.boundValue_eq]
  split
  · rename_i hargs
    exact mem_parts_of_formArgs hargs (by simp)
  · exact arg.self_mem_parts

end Lookups

section Names

variable {tree : Term}

theorem mem_names {name : Text} :
    name ∈ tree.names ↔ ∃ part ∈ tree.parts, name ∈ part.ownNames :=
  List.mem_flatMap

theorem form_mem_names {name : Text} {info args : Term}
    (hpart : .tuple [.text name, info, args] ∈ tree.parts) : name ∈ tree.names :=
  mem_names.mpr ⟨_, hpart, by simp [ownNames]⟩

theorem selected_mem_names {head target : Term} (hhead : head ∈ tree.parts) {name : Text}
    (hdot : Node.dotOperands? head = some [target, .text name]) : name ∈ tree.names := by
  refine mem_names.mpr ⟨head, hhead, ?_⟩
  obtain ⟨form, info, operands, rfl⟩ : ∃ form info operands,
      head = .tuple [.text form, info, .list operands] := by
    unfold Node.dotOperands? at hdot
    split at hdot
    · exact ⟨_, _, _, rfl⟩
    · contradiction
  simp [ownNames, hdot, selected?]

theorem mem_textsOf {segment : Text} {items : List Term} :
    segment ∈ Alias.textsOf items ↔ .text segment ∈ items := by
  induction items with
  | nil => simp [Alias.textsOf]
  | cons item rest ih =>
      by_cases hitem : ∃ text, item = .text text
      · obtain ⟨text, rfl⟩ := hitem
        simp [Alias.textsOf, ih]
      · have hne : item ≠ .text segment := not_exists.mp hitem segment
        rw [Alias.textsOf_cons_of_ne_text (not_exists.mp hitem), ih, List.mem_cons]
        exact ⟨.inr, fun h => h.resolve_left hne.symm⟩

theorem segment_mem_names {info : Term} {segments : List Term}
    (hpart : .tuple [.text "__aliases__", info, .list segments] ∈ tree.parts) {segment : Text}
    (hsegment : .text segment ∈ segments) : segment ∈ tree.names :=
  mem_names.mpr ⟨_, hpart, by simp [ownNames, Node.formArgs?, mem_textsOf, hsegment]⟩

theorem capturedArity_mem {info : Term} {items : List Term}
    (hpart : .tuple [.text "&", info, .list items] ∈ tree.parts) {callee : Term} {arity : Int}
    (hparts : Node.captureParts? items = some (callee, arity)) : arity ∈ tree.capturedArities :=
  List.mem_filterMap.mpr ⟨_, hpart, by simp [capturedArity?, Node.formArgs?, hparts]⟩

theorem selectedAtom_mem {head : Term} (hhead : head ∈ tree.parts) {atom name : Text}
    (hdot : Node.dotOperands? head = some [.text atom, .text name]) : atom ∈ tree.selectedAtoms :=
  List.mem_filterMap.mpr ⟨head, hhead, by simp [selectedAtom?, hdot]⟩

end Names

/-- A receiver that can be read off a tree: its segments or its atom stand there. -/
def Supplies (tree : Term) : Target → Prop
  | .alias segments => segments ≠ [] ∧ segments ⊆ tree.names
  | .current segments => segments ⊆ tree.names
  | .atom name => name ∈ tree.selectedAtoms
  | .dynamic => True
  | .nameless => False

theorem supplies_alias {tree node : Term} (hnode : node ∈ tree.parts) {segments : List Text}
    (hsegments : Alias.parts none node = some segments) : tree.Supplies (.alias segments) := by
  rcases Alias.parts_eq_some_iff.mp hsegments with ⟨hnil, info, rfl⟩ | ⟨name, rest, hname, _⟩
  · exact ⟨hnil, fun segment hsegment =>
      segment_mem_names hnode (List.mem_map_of_mem hsegment)⟩
  · contradiction

theorem supplies_current {tree node : Term} (hnode : node ∈ tree.parts) {segments : List Text}
    (hsegments : Alias.currentSegments node = some segments) :
    tree.Supplies (.current segments) := by
  intro segment hsegment
  unfold Alias.currentSegments at hsegments
  split at hsegments
  · split_ifs at hsegments with hcurrent halias
    · obtain rfl := Option.some.inj hsegments
      contradiction
    · subst halias
      split at hsegments
      · split_ifs at hsegments
        obtain rfl := Option.some.inj hsegments
        exact segment_mem_names hnode (List.mem_cons_of_mem _ (mem_textsOf.mp hsegment))
      · contradiction
  · contradiction

end CallAtlas.Term
