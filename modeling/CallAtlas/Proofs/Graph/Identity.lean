import CallAtlas.Graph.Text
import CallAtlas.Proofs.Graph.Additions
import CallAtlas.Proofs.Json.Written

/-!
Ids of nodes.  A graph as a data value shows its nodes in full, but the ends of its edges by their
texts only.  A text shows the arity, and the module and function with a dot between them.  Since the
function may have dots of its own, two references can have the same text; so the value of a graph
tells edges apart just as far as their texts do.
-/

namespace CallAtlas

/-- Two lists in which the same mark stands: it stands in the same place of both, or the later place
of it comes after another one. -/
theorem append_mark_eq_iff {α : Type} {mark : α} {front back others rest : List α} :
    front ++ mark :: back = others ++ mark :: rest ↔
      front = others ∧ back = rest ∨
      (∃ middle, others = front ++ mark :: middle ∧ back = middle ++ mark :: rest) ∨
      ∃ middle, front = others ++ mark :: middle ∧ rest = middle ++ mark :: back := by
  constructor
  · intro h
    rcases List.append_eq_append_iff.mp h with ⟨between, hothers, hback⟩ | ⟨between, hfront, hrest⟩
    · cases between with
      | nil =>
          rw [List.append_nil] at hothers
          exact Or.inl ⟨hothers.symm, (List.cons.inj hback).2⟩
      | cons first middle =>
          obtain ⟨rfl, hrest⟩ := List.cons.inj hback
          exact Or.inr (Or.inl ⟨middle, hothers, hrest⟩)
    · cases between with
      | nil =>
          rw [List.append_nil] at hfront
          exact Or.inl ⟨hfront, (List.cons.inj hrest).2.symm⟩
      | cons first middle =>
          obtain ⟨rfl, hback⟩ := List.cons.inj hrest
          exact Or.inr (Or.inr ⟨middle, hfront, hback⟩)
  · rintro (⟨rfl, rfl⟩ | ⟨middle, rfl, rfl⟩ | ⟨middle, rfl, rfl⟩)
    · rfl
    · simp
    · simp

namespace Ref

/-- The same text with the module ending at a later dot: what stands before a dot in the function of
the one reference belongs to the module of the other. -/
def Regroups (ref other : Ref) : Prop :=
  ∃ middle, other.module = ref.module ++ "." ++ middle ∧
    ref.function = middle ++ "." ++ other.function ∧ other.arity = ref.arity

theorem points_text (ref : Ref) :
    ref.text.points = (ref.module.points ++ Point.char '.' :: ref.function.points) ++
      Point.char '/' :: (toString ref.arity).toList.map Point.char := by
  simp [text, Text.points]

/-- No slash stands in a number. -/
theorem slash_not_mem_toString (value : Int) :
    Point.char '/' ∉ (toString value).toList.map Point.char := by
  intro hslash
  obtain ⟨c, hc, heq⟩ := List.mem_map.mp hslash
  obtain rfl : c = '/' := by simpa using heq
  exact absurd (Json.Lexer.isWordChar_toString value '/' hc) (by decide)

/-- The last slash of a text divides it into name and arity. -/
theorem text_eq_iff_parts {ref other : Ref} :
    ref.text = other.text ↔
      ref.module.points ++ Point.char '.' :: ref.function.points =
        other.module.points ++ Point.char '.' :: other.function.points ∧
        ref.arity = other.arity := by
  constructor
  · intro h
    have hpoints := congrArg Text.points h
    rw [points_text, points_text] at hpoints
    rcases append_mark_eq_iff.mp hpoints with
      ⟨hname, hdigits⟩ | ⟨middle, _, hdigits⟩ | ⟨middle, _, hdigits⟩
    · refine ⟨hname, Json.eq_of_toList_toString ?_⟩
      exact List.map_injective_iff.mpr (fun _ _ => Point.char.inj) hdigits
    · exact absurd (hdigits ▸ by simp) (slash_not_mem_toString ref.arity)
    · exact absurd (hdigits ▸ by simp) (slash_not_mem_toString other.arity)
  · rintro ⟨hname, harity⟩
    apply Text.points_injective
    rw [points_text, points_text, hname, harity]

/-- A later dot, in points and in texts. -/
theorem regroups_iff {ref other : Ref} :
    ref.Regroups other ↔
      (∃ middle, other.module.points = ref.module.points ++ Point.char '.' :: middle ∧
        ref.function.points = middle ++ Point.char '.' :: other.function.points) ∧
        other.arity = ref.arity := by
  have hdot : Text.points "." = [.char '.'] := by decide
  constructor
  · rintro ⟨middle, hmodule, hfunction, harity⟩
    refine ⟨⟨middle.points, ?_, ?_⟩, harity⟩
    · simp [hmodule, hdot]
    · simp [hfunction, hdot]
  · rintro ⟨⟨middle, hmodule, hfunction⟩, harity⟩
    refine ⟨.ofPoints middle, Text.points_injective _ _ ?_, Text.points_injective _ _ ?_, harity⟩
    · simp [hmodule, hdot]
    · simp [hfunction, hdot]

/-- References have the same text if they are the same, or if one of them regroups the other, and
not otherwise. -/
theorem text_eq_iff {ref other : Ref} :
    ref.text = other.text ↔ ref = other ∨ ref.Regroups other ∨ other.Regroups ref := by
  rw [text_eq_iff_parts, append_mark_eq_iff, regroups_iff, regroups_iff]
  constructor
  · rintro ⟨⟨hmodule, hfunction⟩ | hlater | hearlier, harity⟩
    · left
      obtain ⟨module, function, arity⟩ := ref
      obtain rfl : module = other.module := Text.points_injective _ _ hmodule
      obtain rfl : function = other.function := Text.points_injective _ _ hfunction
      obtain rfl : arity = other.arity := harity
      rfl
    · exact Or.inr (Or.inl ⟨hlater, harity.symm⟩)
    · exact Or.inr (Or.inr ⟨hearlier, harity⟩)
  · rintro (rfl | ⟨hlater, harity⟩ | ⟨hearlier, harity⟩)
    · exact ⟨Or.inl ⟨rfl, rfl⟩, rfl⟩
    · exact ⟨Or.inr (Or.inl hlater), harity.symm⟩
    · exact ⟨Or.inr (Or.inr hearlier), harity⟩

/-- Only a function with a dot can be regrouped. -/
theorem Regroups.dot_mem {ref other : Ref} (h : ref.Regroups other) :
    Point.char '.' ∈ ref.function.points := by
  obtain ⟨⟨middle, _, hfunction⟩, _⟩ := regroups_iff.mp h
  rw [hfunction]
  exact List.mem_append_right _ List.mem_cons_self

theorem toJson_inj {ref other : Ref} : ref.toJson = other.toJson ↔ ref = other := by
  constructor
  · intro h
    obtain ⟨module, function, arity⟩ := ref
    obtain ⟨otherModule, otherFunction, otherArity⟩ := other
    simp only [toJson, Json.object.injEq, List.cons.injEq, Prod.mk.injEq, Json.text.injEq,
      Json.int.injEq, true_and, and_true] at h
    obtain ⟨rfl, rfl, rfl, _⟩ := h
    rfl
  · rintro rfl
    rfl

end Ref

namespace Graph

/-- The ends of an edge as a data value shows them. -/
def edgeIds (edge : Edge) : Text × Text := (edge.1.text, edge.2.text)

/-- The value of a graph shows its start, its nodes, the mark of truncation and the ids of its
edges. -/
theorem toJson_eq_iff {graph other : Graph} :
    graph.toJson = other.toJson ↔
      graph.start = other.start ∧ graph.nodes = other.nodes ∧
        graph.truncated = other.truncated ∧
        graph.edges.map edgeIds = other.edges.map edgeIds := by
  have hnodes : graph.nodes.map Ref.toJson = other.nodes.map Ref.toJson ↔
      graph.nodes = other.nodes :=
    (List.map_injective_iff.mpr fun _ _ => Ref.toJson_inj.mp).eq_iff
  let shown (ids : Text × Text) : Json := .object [("from", .text ids.1), ("to", .text ids.2)]
  have hshown : Function.Injective shown := by
    rintro ⟨first, second⟩ ⟨third, fourth⟩ h
    simpa [shown] using h
  have hedges : ((graph.edges.map edgeIds).map shown = (other.edges.map edgeIds).map shown) ↔
      graph.edges.map edgeIds = other.edges.map edgeIds :=
    (List.map_injective_iff.mpr hshown).eq_iff
  rw [← hedges, ← hnodes, ← @Ref.toJson_inj graph.start]
  simp only [toJson, Json.object.injEq, List.cons.injEq, Prod.mk.injEq, Json.array.injEq,
    Json.bool.injEq, true_and, and_true, List.map_map]
  constructor
  · rintro ⟨hstart, hnodes, hedges, htruncated⟩
    exact ⟨hstart, hnodes, htruncated, hedges⟩
  · rintro ⟨hstart, hnodes, htruncated, hedges⟩
    exact ⟨hstart, hnodes, hedges, htruncated⟩

theorem textFault?_eq_none_iff {graph : Graph} :
    graph.textFault? = none ↔ ∀ node ∈ graph.nodes, Numeral.isOversized node.arity = false := by
  rw [textFault?, List.findSome?_eq_none_iff]
  simp [Ref.textFault?, WriteFault.ofInt?]

theorem value_eq_ok_iff {graph : Graph} {value : Json} :
    graph.value = .ok value ↔ graph.textFault? = none ∧ graph.toJson = value := by
  unfold Graph.value WriteFault.guard
  cases graph.textFault? <;> simp

/-- Two graphs both have a value, and the same, if they have the same parts and all nodes a text. -/
theorem exists_value_iff {graph other : Graph} :
    (∃ value, graph.value = .ok value ∧ other.value = .ok value) ↔
      graph.textFault? = none ∧ graph.toJson = other.toJson := by
  simp only [value_eq_ok_iff]
  constructor
  · rintro ⟨value, ⟨hnone, hvalue⟩, _, hother⟩
    exact ⟨hnone, hvalue.trans hother.symm⟩
  · rintro ⟨hnone, hsame⟩
    have hnodes : graph.nodes = other.nodes := (toJson_eq_iff.mp hsame).2.1
    have hother : other.textFault? = none := by
      rwa [textFault?, ← hnodes]
    exact ⟨graph.toJson, ⟨hnone, rfl⟩, hother, hsame.symm⟩

/-- Edges between nodes whose ids are distinct are given by their ids. -/
theorem edges_eq_of_edgeIds {nodes : List Ref}
    (hdistinct : ∀ node ∈ nodes, ∀ twin ∈ nodes, node.text = twin.text → node = twin)
    {edges others : List Edge} (hedges : ∀ edge ∈ edges, edge.1 ∈ nodes ∧ edge.2 ∈ nodes)
    (hothers : ∀ edge ∈ others, edge.1 ∈ nodes ∧ edge.2 ∈ nodes)
    (hids : edges.map edgeIds = others.map edgeIds) : edges = others := by
  induction edges generalizing others with
  | nil => exact (List.map_eq_nil_iff.mp hids.symm).symm
  | cons edge rest ih =>
      obtain ⟨other, later, rfl, hother, hlater⟩ := List.map_eq_cons_iff.mp hids.symm
      obtain ⟨⟨hcaller, hcallee⟩, hrest⟩ := List.forall_mem_cons.mp hedges
      obtain ⟨⟨hotherCaller, hotherCallee⟩, hlaterEnds⟩ := List.forall_mem_cons.mp hothers
      obtain ⟨hfrom, hto⟩ := Prod.mk.inj hother
      have hsame : edge = other := Prod.ext
        (hdistinct _ hcaller _ hotherCaller hfrom.symm)
        (hdistinct _ hcallee _ hotherCallee hto.symm)
      rw [hsame, ih hrest hlaterEnds hlater.symm]

/-- A graph made by additions, with a mark of truncation or without. -/
def made (start : Ref) (additions : List Addition) (truncated : Bool) : Graph :=
  { (init start).after additions with truncated }

/-- What the data value of a graph keeps.  A graph has a value unless the arity of a node has too
many digits.  Two graphs have the same value just when they have the same start, the same nodes and
the same mark of truncation, and their edges have the same ids one by one.  Two references have the
same id just when they are the same or one of them regroups the other.  So if no node regroups
another, in particular if no function of a node has a dot, nodes have distinct ids, and graphs with
the same value have the same edges. -/
theorem toJson_keeps_up_to_ids (start origin : Ref) (additions others : List Addition)
    (truncated cut : Bool) :
    let graph := made start additions truncated
    let other := made origin others cut
    ((∃ value, graph.value = .ok value) ↔
      ∀ node ∈ graph.nodes, Numeral.isOversized node.arity = false) ∧
    ((∃ value, graph.value = .ok value ∧ other.value = .ok value) ↔
      (∀ node ∈ graph.nodes, Numeral.isOversized node.arity = false) ∧
        graph.toJson = other.toJson) ∧
    (graph.toJson = other.toJson ↔
      graph.start = other.start ∧ graph.nodes = other.nodes ∧ graph.truncated = other.truncated ∧
        graph.edges.map edgeIds = other.edges.map edgeIds) ∧
    (∀ node twin : Ref, node.text = twin.text ↔
      node = twin ∨ node.Regroups twin ∨ twin.Regroups node) ∧
    ((∀ node ∈ graph.nodes, Point.char '.' ∉ node.function.points) →
      ∀ node ∈ graph.nodes, ∀ twin ∈ graph.nodes, ¬ node.Regroups twin) ∧
    ((∀ node ∈ graph.nodes, ∀ twin ∈ graph.nodes, ¬ node.Regroups twin) →
      (∀ node ∈ graph.nodes, ∀ twin ∈ graph.nodes, node.text = twin.text → node = twin) ∧
      (graph.toJson = other.toJson → graph.edges = other.edges)) := by
  intro graph other
  rw [← textFault?_eq_none_iff]
  refine ⟨?_, exists_value_iff, toJson_eq_iff, fun node twin => Ref.text_eq_iff, ?_, ?_⟩
  · simp [value_eq_ok_iff]
  · intro hplain node hnode twin _ hregroups
    exact hplain node hnode hregroups.dot_mem
  · intro hnone
    have hdistinct : ∀ node ∈ graph.nodes, ∀ twin ∈ graph.nodes,
        node.text = twin.text → node = twin := by
      intro node hnode twin htwin htext
      rcases Ref.text_eq_iff.mp htext with heq | hregroups | hregroups
      · exact heq
      · exact absurd hregroups (hnone node hnode twin htwin)
      · exact absurd hregroups (hnone twin htwin node hnode)
    refine ⟨hdistinct, ?_⟩
    intro hjson
    obtain ⟨_, hnodes, _, hids⟩ := toJson_eq_iff.mp hjson
    have hedges := ((Agrees.init start).after additions).ends_mem
    have hothers : ∀ edge ∈ other.edges, edge.1 ∈ graph.nodes ∧ edge.2 ∈ graph.nodes := by
      rw [hnodes]
      exact ((Agrees.init origin).after others).ends_mem
    exact edges_eq_of_edgeIds hdistinct hedges hothers hids

/-- The function `Cart.total` of `Shop` and the function `total` of `Shop.Cart` have the same id:
two graphs with both of them have the same value, though their edges are different. -/
theorem toJson_loses_callee :
    let start : Ref := ⟨"Main", "run", 0⟩
    let first : Ref := ⟨"Shop", "Cart.total", 1⟩
    let second : Ref := ⟨"Shop.Cart", "total", 1⟩
    let graph (callee : Ref) : Graph :=
      made start [.node first, .node second, .edge start callee] false
    (graph first).toJson = (graph second).toJson ∧ (graph first).edges ≠ (graph second).edges ∧
      first ≠ second ∧ first.text = second.text := by
  refine ⟨toJson_eq_iff.mpr ?_, ?_, ?_, ?_⟩ <;> decide

end Graph

end CallAtlas
