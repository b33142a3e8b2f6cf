import Mathlib.Data.List.Basic
import CallAtlas.Node.Calls
import CallAtlas.Proofs.Term.Parts

/-!
What classification can build.  `Closed` lists the ways in which the node of a tree is put together
from the nodes of its parts, with names, receivers and captured arities that stand in the tree; a
property that each of them keeps holds for the node of the tree.

Nothing that is put together so is faulty, so extraction gives calls for every tree.
-/

namespace CallAtlas.Node

/-- A property of nodes that every step of the classification of a tree keeps. -/
structure Closed (tree : Term) (P : Node → Prop) : Prop where
  leaf : ∀ name position, (∀ text, name = some text → text ∈ tree.names) → P (.leaf name position)
  qualified : ∀ target name args receiver position, tree.Supplies target → name ∈ tree.names →
    (∀ node ∈ args, P node) → (∀ node, receiver = some node → P node) →
    P (.qualified target name args.length args receiver position)
  unqualified : ∀ name args position, name ∈ tree.names → (∀ node ∈ args, P node) →
    P (.unqualified name args.length args position)
  captured : ∀ info arity node callee, arity ∈ tree.capturedArities → P node →
    captured info arity node = some callee → P callee
  pipeline : ∀ left right, P left → P right → P (.pipeline left right)
  withChain : ∀ clauses body otherwise, (∀ node ∈ clauses, P node) → P body →
    (∀ node, otherwise = some node → P node) → P (.withChain clauses body otherwise)
  grouping : ∀ nodes, (∀ node ∈ nodes, P node) → P (.grouping nodes)
  sequence : ∀ nodes, (∀ node ∈ nodes, P node) → P (.sequence nodes)
  block : ∀ nodes, (∀ node ∈ nodes, P node) → P (.block nodes)

section Steps

variable {tree : Term} {P : Node → Prop}

/-- A part of the tree, for all parts of which the property is known. -/
structure Ready (tree : Term) (P : Node → Prop) (term : Term) : Prop where
  mem : term ∈ tree.parts
  nodes : ∀ part ∈ term.parts, P (classify part)

namespace Ready

variable {term : Term}

theorem node (h : Ready tree P term) : P (classify term) := h.nodes term term.self_mem_parts

theorem part (h : Ready tree P term) {part : Term} (hpart : part ∈ term.parts) :
    Ready tree P part :=
  ⟨Term.mem_parts_trans hpart h.mem, fun inner hinner =>
    h.nodes inner (Term.mem_parts_trans hinner hpart)⟩

theorem items (h : Ready tree P term) : ∀ item ∈ term.items, Ready tree P item :=
  fun _ hitem => h.part (Term.item_mem_parts hitem)

theorem formArgs (h : Ready tree P term) {form : Text} {items : List Term}
    (hargs : formArgs? form term = some items) : ∀ item ∈ items, Ready tree P item :=
  fun _ hitem => h.part (Term.mem_parts_of_formArgs hargs hitem)

theorem guardOperands (h : Ready tree P term) {operands : List Term}
    (hguard : guardOperands? term = some operands) : ∀ operand ∈ operands, Ready tree P operand :=
  fun _ hoperand => h.part (Term.mem_parts_of_guardOperands hguard hoperand)

end Ready

theorem forall_classifyAll {items : List Term} (h : ∀ item ∈ items, Ready tree P item) :
    ∀ node ∈ classifyAll items, P node := by
  induction items with
  | nil => simp [classifyAll]
  | cons item rest ih =>
      obtain ⟨hitem, hrest⟩ := List.forall_mem_cons.mp h
      rw [classifyAll, List.forall_mem_cons]
      exact ⟨hitem.node, ih hrest⟩

theorem length_classifyAll (items : List Term) : (classifyAll items).length = items.length := by
  induction items with
  | nil => rfl
  | cons item rest ih => rw [classifyAll, List.length_cons, ih, List.length_cons]

theorem forall_classifyLast {items : List Term} (h : ∀ item ∈ items, Ready tree P item)
    {node : Node} (hnode : classifyLast items = some node) : P node := by
  induction items with
  | nil => simp [classifyLast] at hnode
  | cons item rest ih =>
      obtain ⟨hitem, hrest⟩ := List.forall_mem_cons.mp h
      cases rest with
      | nil =>
          obtain rfl := Option.some.inj hnode
          exact hitem.node
      | cons second rest => exact ih hrest hnode

theorem forall_classifyEntry {key : Text} {entries : List Term}
    (h : ∀ entry ∈ entries, Ready tree P entry) {node : Node}
    (hnode : classifyEntry key entries = some node) : P node := by
  induction entries with
  | nil => simp [classifyEntry] at hnode
  | cons entry rest ih =>
      obtain ⟨hready, hrest⟩ := List.forall_mem_cons.mp h
      by_cases hentry : ∃ name value, entry = .tuple [.text name, value]
      · obtain ⟨name, value, rfl⟩ := hentry
        rw [classifyEntry] at hnode
        split_ifs at hnode
        · obtain rfl := Option.some.inj hnode
          exact (hready.items value (by simp [Term.items])).node
        · exact ih hrest hnode
      · have hshape : ∀ name value, entry ≠ .tuple [.text name, value] := by
          intro name value heq
          exact hentry ⟨name, value, heq⟩
        rw [classifyEntry_cons hshape] at hnode
        exact ih hrest hnode

theorem forall_classifyGuard {pattern : Term} (h : Ready tree P pattern) {node : Node}
    (hnode : classifyGuard pattern = some node) : P node := by
  rw [classifyGuard_eq, Option.bind_eq_some_iff] at hnode
  obtain ⟨operands, hoperands, hnode⟩ := hnode
  exact forall_classifyLast (h.guardOperands hoperands) hnode

namespace Closed

theorem literal (hP : Closed tree P) : P .literal := hP.leaf none none (by simp)

/-- An operator with two operands, of which a clause shows only its guard and its body. -/
theorem of_pair (hP : Closed tree P) {name : Text} {operands : List Term}
    (h : ∀ operand ∈ operands, Ready tree P operand) {node : Node}
    (hnode : classifyPair name operands = some node) : P node := by
  match operands with
  | [] | [_] | _ :: _ :: _ :: _ => simp [classifyPair] at hnode
  | [left, right] =>
      have hleft : Ready tree P left := h left (by simp)
      have hright : P (classify right) := (h right (by simp)).node
      have hbody : P (.block [classify right]) := hP.block _ (by simpa using hright)
      rw [classifyPair] at hnode
      split_ifs at hnode
      · obtain rfl := Option.some.inj hnode
        exact hP.pipeline _ _ hleft.node hright
      · cases hguard : classifyGuard left with
        | none =>
            rw [hguard] at hnode
            obtain rfl := Option.some.inj hnode
            exact hbody
        | some guarded =>
            have hguarded : P guarded := forall_classifyGuard hleft hguard
            rw [hguard] at hnode
            obtain rfl := Option.some.inj hnode
            apply hP.block
            rw [List.forall_mem_cons, List.forall_mem_singleton]
            exact ⟨hguarded, hright⟩
      · obtain rfl := Option.some.inj hnode
        exact hbody

/-- A `with` chain, from what was collected before and the arguments that are left. -/
theorem of_with (hP : Closed tree P) {args : List Term} (h : ∀ arg ∈ args, Ready tree P arg)
    {clauses : List Node} (hclauses : ∀ node ∈ clauses, P node) {body : Node} (hbody : P body)
    {otherwise : Option Node} (hotherwise : ∀ node, otherwise = some node → P node) :
    P (classifyWith clauses body otherwise args) := by
  induction args generalizing clauses body otherwise with
  | nil =>
      apply hP.withChain _ _ _ _ hbody hotherwise
      intro node hnode
      exact hclauses node (List.mem_reverse.mp hnode)
  | cons arg rest ih =>
      obtain ⟨harg, hrest⟩ := List.forall_mem_cons.mp h
      by_cases hlist : ∃ entries, arg = .list entries
      · obtain ⟨entries, rfl⟩ := hlist
        have hentries : ∀ entry ∈ entries, Ready tree P entry := harg.items
        rw [classifyWith]
        cases hdo : classifyEntry "do" entries with
        | some body =>
            apply ih hrest hclauses (forall_classifyEntry hentries hdo)
            intro node hnode
            rcases Option.or_eq_some_iff.mp hnode with helse | ⟨_, hbefore⟩
            · exact forall_classifyEntry hentries helse
            · exact hotherwise node hbefore
        | none =>
            have hclause := hP.sequence _ (forall_classifyAll hentries)
            exact ih hrest (List.forall_mem_cons.mpr ⟨hclause, hclauses⟩) hbody hotherwise
      · have hvalue := (harg.part arg.boundValue_mem_parts).node
        rw [classifyWith_cons (not_exists.mp hlist)]
        exact ih hrest (List.forall_mem_cons.mpr ⟨hvalue, hclauses⟩) hbody hotherwise

/-- A call through a dot, or what else stands around one. -/
theorem of_remote (hP : Closed tree P) {head : Term} (h : Ready tree P head)
    {operands : List Term} (hdot : dotOperands? head = some operands) (info : Term)
    {args : List Node} (hargs : ∀ node ∈ args, P node) :
    P (classifyRemote info args operands) := by
  have hoperands := h.formArgs hdot
  match operands with
  | [] => exact hP.sequence args hargs
  | [callee] =>
      have hcallee : P (classify callee) := (hoperands callee (by simp)).node
      exact hP.block _ (List.forall_mem_cons.mpr ⟨hcallee, hargs⟩)
  | [target, name] =>
      have htarget : Ready tree P target := hoperands target (by simp)
      by_cases hname : ∃ text, name = .text text
      · obtain ⟨name, rfl⟩ := hname
        have hmem : name ∈ tree.names := Term.selected_mem_names h.mem hdot
        have hplain : ∀ target, tree.Supplies target →
            P (.qualified target name args.length args none (Position.ofMeta info)) := by
          intro target htarget
          exact hP.qualified target name args none _ htarget hmem hargs (by simp)
        by_cases hatom : ∃ text, target = .text text
        · obtain ⟨atom, rfl⟩ := hatom
          exact hplain (.atom atom) (Term.selectedAtom_mem h.mem hdot)
        · rw [classifyRemote_target (not_exists.mp hatom)]
          split
          · rename_i hsegments
            exact hplain _ (Term.supplies_alias htarget.mem hsegments)
          · rename_i hsegments
            exact hplain _ (Term.supplies_current htarget.mem hsegments)
          · split
            · exact hP.block _ (by simpa using htarget.node)
            · apply hP.qualified .dynamic _ _ _ _ trivial hmem hargs
              intro node hnode
              obtain rfl := Option.some.inj hnode
              exact htarget.node
      · have hothers := forall_classifyAll (List.forall_mem_cons.mp hoperands).2
        rw [classifyRemote_unnamed (not_exists.mp hname)]
        apply hP.sequence
        rw [List.cons_append, List.forall_mem_cons, List.forall_mem_append]
        exact ⟨htarget.node, hothers, hargs⟩
  | first :: second :: third :: rest =>
      obtain ⟨hfirst, hothers⟩ := List.forall_mem_cons.mp hoperands
      rw [classifyRemote_many]
      apply hP.sequence
      rw [List.cons_append, List.forall_mem_cons, List.forall_mem_append]
      exact ⟨hfirst.node, forall_classifyAll hothers, hargs⟩

theorem of_callee (hP : Closed tree P) {callee : Term} (h : Ready tree P callee)
    {node : Node} (hnode : calleeNode? callee = some node) : P node := by
  by_cases htriple : callee.isTriple = true
  · obtain ⟨head, info, args, rfl⟩ := exists_of_isTriple htriple
    rw [calleeNode?] at hnode
    cases hdot : dotOperands? head with
    | none =>
        rw [hdot] at hnode
        obtain rfl := Option.some.inj hnode
        exact h.node
    | some operands =>
        rw [hdot] at hnode
        obtain rfl := Option.some.inj hnode
        exact hP.of_remote (h.items head (by simp [Term.items])) hdot _ (by simp)
  · rw [calleeNode?_of_not_isTriple htriple] at hnode
    contradiction

theorem of_capture (hP : Closed tree P) {info : Term} {items : List Term}
    (hmem : .tuple [.text "&", info, .list items] ∈ tree.parts)
    (h : ∀ item ∈ items, Ready tree P item) {node : Node}
    (hnode : classifyCapture info items = some node) : P node := by
  rw [classifyCapture_eq, Option.bind_eq_some_iff] at hnode
  obtain ⟨⟨callee, arity⟩, hparts, hnode⟩ := hnode
  obtain ⟨inner, hinner, hnode⟩ := Option.bind_eq_some_iff.mp hnode
  obtain ⟨item, hitem, hpart⟩ := Term.mem_parts_of_captureParts hparts
  have hcallee : P inner := hP.of_callee ((h item hitem).part hpart) hinner
  exact hP.captured info arity inner node (Term.capturedArity_mem hmem hparts) hcallee hnode

/-- A form with arguments. -/
theorem of_form (hP : Closed tree P) {name : Text} {info : Term} {items : List Term}
    (hmem : .tuple [.text name, info, .list items] ∈ tree.parts)
    (h : ∀ item ∈ items, Ready tree P item) :
    P (classify (.tuple [.text name, info, .list items])) := by
  have hitems := forall_classifyAll h
  rw [classify]
  cases hpair : classifyPair name items with
  | some node => exact hP.of_pair h hpair
  | none =>
      simp only
      split_ifs with _ _ _ _ hcapture
      · exact hP.of_with h (by simp) hP.literal (by simp)
      · exact hP.grouping _ hitems
      · exact hP.block _ hitems
      · exact hP.literal
      · subst hcapture
        cases hcapture : classifyCapture info items with
        | some node => exact hP.of_capture hmem h hcapture
        | none => exact hP.block _ hitems
      · exact hP.sequence _ hitems
      · rw [← length_classifyAll items]
        exact hP.unqualified name _ _ (Term.form_mem_names hmem) hitems

/-- A triple whose form is a triple. -/
theorem of_applied (hP : Closed tree P) {head args : Term} (htriple : head.isTriple = true)
    (hhead : Ready tree P head) (info : Term) (hready : Ready tree P args) :
    P (classify (.tuple [head, info, args])) := by
  have hargs : ∀ node ∈ argNodes args, P node := by
    cases args with
    | list items => exact forall_classifyAll hready.items
    | _ => simp [argNodes]
  rw [classify_applied htriple]
  cases hdot : dotOperands? head with
  | none => exact hP.sequence _ (List.forall_mem_cons.mpr ⟨hhead.node, hargs⟩)
  | some operands => exact hP.of_remote hhead hdot info hargs

theorem of_triple (hP : Closed tree P) {head info args : Term}
    (hmem : .tuple [head, info, args] ∈ tree.parts) (hhead : Ready tree P head)
    (hargs : Ready tree P args) : P (classify (.tuple [head, info, args])) := by
  by_cases htext : ∃ name, head = .text name
  · obtain ⟨name, rfl⟩ := htext
    by_cases hlist : ∃ items, args = .list items
    · obtain ⟨items, rfl⟩ := hlist
      exact hP.of_form hmem hargs.items
    · rw [classify_identifier (not_exists.mp hlist)]
      apply hP.leaf
      intro text htext
      obtain rfl := Option.some.inj htext
      exact Term.form_mem_names hmem
  · cases htriple : head.isTriple with
    | true => exact hP.of_applied htriple hhead info hargs
    | false =>
        rw [classify_formless htriple (not_exists.mp htext)]
        exact hP.literal

theorem of_tuple (hP : Closed tree P) {items : List Term} (hmem : .tuple items ∈ tree.parts)
    (h : ∀ item ∈ items, Ready tree P item) : P (classify (.tuple items)) := by
  by_cases hthree : items.length = 3
  · obtain ⟨head, info, args, rfl⟩ := List.length_eq_three.mp hthree
    exact hP.of_triple hmem (h head (by simp)) (h args (by simp))
  · rw [classify_group hthree]
    exact hP.grouping _ (forall_classifyAll h)

theorem ready_of_below (hP : Closed tree P) {term : Term}
    (h : Below (fun part => part ∈ tree.parts → Ready tree P part) (sizeOf term))
    (hmem : term ∈ tree.parts) : Ready tree P term := by
  have hitems : ∀ item ∈ term.items, Ready tree P item := by
    intro item hitem
    exact h item (Term.sizeOf_lt_of_mem_items hitem)
      (Term.mem_parts_trans (Term.item_mem_parts hitem) hmem)
  refine ⟨hmem, ?_⟩
  intro part hpart
  rcases Term.mem_parts.mp hpart with rfl | ⟨item, hitem, hpart⟩
  · cases part with
    | list items => exact hP.sequence _ (forall_classifyAll hitems)
    | tuple items => exact hP.of_tuple hmem hitems
    | _ => exact hP.literal
  · exact (hitems item hitem).nodes part hpart

/-- A property that every step of the classification of a tree keeps holds for the nodes of all its
parts. -/
theorem of_classify (hP : Closed tree P) {term : Term} (hmem : term ∈ tree.parts) :
    P (classify term) :=
  (forall_of_below (fun _ => hP.ready_of_below) term hmem).node

end Closed

end Steps

theorem faultAmong?_eq_none {nodes : List Node} (h : ∀ node ∈ nodes, node.fault? = none) :
    faultAmong? nodes = none := by
  induction nodes with
  | nil => rfl
  | cons node rest ih =>
      obtain ⟨hnode, hrest⟩ := List.forall_mem_cons.mp h
      rw [faultAmong?, hnode, ih hrest]
      rfl

theorem fault?_captured {info : Term} {arity : Int} {node callee : Node}
    (hnode : node.fault? = none) (hcallee : captured info arity node = some callee) :
    callee.fault? = none := by
  unfold captured at hcallee
  split at hcallee
  · rename_i receiver _
    obtain rfl := Option.some.inj hcallee
    cases receiver <;> simpa only [fault?] using hnode
  · obtain rfl := Option.some.inj hcallee
    rfl
  · contradiction

theorem closed_faultless (tree : Term) : Closed tree fun node => node.fault? = none where
  leaf _ _ _ := rfl
  qualified target name args receiver position htarget _ hargs hreceiver := by
    have hnamed : target ≠ .nameless := by
      rintro rfl
      exact htarget
    cases receiver with
    | none => simp [fault?, hnamed, faultAmong?_eq_none hargs]
    | some receiver => simp [fault?, hnamed, faultAmong?_eq_none hargs, hreceiver receiver rfl]
  unqualified _ _ _ _ hargs := faultAmong?_eq_none hargs
  captured _ _ _ _ _ hnode hcallee := fault?_captured hnode hcallee
  pipeline left right hleft hright := by simp [fault?, hleft, hright]
  withChain clauses body otherwise hclauses hbody hotherwise := by
    cases otherwise with
    | none => simp [fault?, faultAmong?_eq_none hclauses, hbody]
    | some otherwise =>
        simp [fault?, faultAmong?_eq_none hclauses, hbody, hotherwise otherwise rfl]
  grouping _ hnodes := faultAmong?_eq_none hnodes
  sequence _ hnodes := faultAmong?_eq_none hnodes
  block _ hnodes := faultAmong?_eq_none hnodes

/-- Extraction gives calls for the node of every tree. -/
theorem extract_classify (scope : Scope) (term : Term) :
    (classify term).extract scope = .ok ((classify term).calls scope false) := by
  rw [extract, (closed_faultless term).of_classify term.self_mem_parts]

end CallAtlas.Node
