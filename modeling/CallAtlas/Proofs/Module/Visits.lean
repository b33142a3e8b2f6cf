import Mathlib.Data.List.Basic
import CallAtlas.Module.Listing
import CallAtlas.Module.Normal
import CallAtlas.Proofs.Alias
import CallAtlas.Proofs.Text.Dotted

/-!
The places of a tree that the search for modules comes to.  It visits the tree itself, the statements
of every block it visits, and the body of every module it visits whose name can be read; which names
can be read depends on the module around them.

Places are ordered as they stand in the tree, what is inside after what is around it.  The listing of
a tree is what is found at its places in this order, up to the first block without statements.
-/

namespace CallAtlas

/-- Whether a term is a block without a statement list. -/
def Term.lacksStatements : Term → Bool
  | .tuple [.text _, _, .list _] => false
  | .tuple [.text form, _, _] => form == "__block__"
  | _ => false

namespace Listing

/-- The full name of a module, by the module around it and its own name node.  Its segments follow the
name around them, if there is one and it is not empty; a leading `__MODULE__` stands for that
name. -/
inductive Named : Option Text → Term → Text → Prop
  | outermost (info : Term) {own : List Text} (hown : own ≠ []) :
      Named none (.tuple [.text "__aliases__", info, .list (own.map .text)]) (Dotted.join own)
  | unprefixed (info : Term) {own : List Text} (hown : own ≠ []) :
      Named (some "") (.tuple [.text "__aliases__", info, .list (own.map .text)]) (Dotted.join own)
  | nested (info : Term) {own : List Text} (hown : own ≠ []) {parent : Text} (hparent : parent ≠ "") :
      Named (some parent) (.tuple [.text "__aliases__", info, .list (own.map .text)])
        (parent ++ "." ++ Dotted.join own)
  | relative (info moduleInfo moduleArgs : Term) (own : List Text) (parent : Text) :
      Named (some parent)
        (.tuple [.text "__aliases__", info,
          .list (.tuple [.text "__MODULE__", moduleInfo, moduleArgs] :: own.map .text)])
        (Dotted.join (parent :: own))

theorem fullName_eq_some_iff {within : Option Text} {nameNode : Term} {name : Text} :
    fullName within nameNode = some name ↔ Named within nameNode name := by
  constructor
  · intro h
    unfold fullName at h
    split at h
    · rename_i own hparts
      rcases Alias.parts_eq_some_iff.mp hparts with ⟨hown, info, rfl⟩ | ⟨_, _, hnone, _⟩
      · rcases within with _ | parent
        · obtain rfl := Option.some.inj h
          exact .outermost info hown
        · by_cases hparent : parent = ""
          · subst hparent
            obtain rfl := Option.some.inj h
            exact .unprefixed info hown
          · simp only [Text.isEmpty, beq_iff_eq, hparent, if_false, Option.some.injEq] at h
            rw [Dotted.join_append (Dotted.segments_ne_nil parent) hown, Dotted.join_segments] at h
            obtain rfl := h
            exact .nested info hown hparent
      · contradiction
    · rename_i hparts
      obtain ⟨segments, hsegments, rfl⟩ := Option.map_eq_some_iff.mp h
      rcases Alias.parts_eq_some_iff.mp hsegments with ⟨hown, info, rfl⟩ | hrelative
      · rw [Alias.parts_eq_some_iff.mpr (.inl ⟨hown, info, rfl⟩)] at hparts
        contradiction
      · obtain ⟨parent, own, rfl, rfl, info, moduleInfo, moduleArgs, rfl⟩ := hrelative
        rw [Dotted.join_segments_append]
        exact .relative info moduleInfo moduleArgs own parent
  · have hplain {own : List Text} (hown : own ≠ []) (info : Term) : Alias.parts none
        (.tuple [.text "__aliases__", info, .list (own.map .text)]) = some own :=
      Alias.parts_eq_some_iff.mpr (.inl ⟨hown, info, rfl⟩)
    intro h
    cases h with
    | outermost info hown => simp [fullName, hplain hown]
    | unprefixed info hown => simp [fullName, hplain hown, Text.isEmpty]
    | nested info hown hparent =>
        simp [fullName, hplain hown, Text.isEmpty, hparent,
          Dotted.join_append (Dotted.segments_ne_nil _) hown, Dotted.join_segments]
    | relative info moduleInfo moduleArgs own parent =>
        have hnone : Alias.parts none (.tuple [.text "__aliases__", info,
            .list (.tuple [.text "__MODULE__", moduleInfo, moduleArgs] :: own.map .text)]) = none := by
          simp [Alias.parts, Term.hasForm]
        unfold fullName
        rw [hnone, Alias.parts_eq_some_iff.mpr (.inr ⟨parent, own, rfl, rfl, info, moduleInfo,
          moduleArgs, rfl⟩), Option.map_some, Dotted.join_segments_append]

/-- A place to which the search comes: its position, which says by number into which item to go at
each step from the root, the module around it, and the part of the tree that stands there. -/
structure Visit where
  position : List Nat
  within : Option Text
  part : Term

/-- A place seen from further above. -/
def Visit.shift (above : List Nat) (visit : Visit) : Visit :=
  { visit with position := above ++ visit.position }

/-- The places to which the search of a tree inside the module `parent` comes. -/
inductive Visited (parent : Option Text) (tree : Term) : Visit → Prop
  | root : Visited parent tree ⟨[], parent, tree⟩
  | statement {position : List Nat} {within : Option Text} {info : Term} {statements : List Term}
      {index : Nat} {statement : Term} :
      Visited parent tree
        ⟨position, within, .tuple [.text "__block__", info, .list statements]⟩ →
      statements[index]? = some statement →
      Visited parent tree ⟨position ++ [2, index], within, statement⟩
  | body {position : List Nat} {within : Option Text} {info nameNode body : Term}
      {front rest : List Term} {name : Text} :
      Visited parent tree
        ⟨position, within, .tuple [.text "defmodule", info,
          .list [nameNode, .list (front ++ .tuple [.text "do", body] :: rest)]]⟩ →
      Named within nameNode name → (∀ entry ∈ front, Normal.isBody entry = false) →
      Visited parent tree ⟨position ++ [2, 1, front.length, 1], some name, body⟩

/-- A module is defined at a place, with this name and node. -/
def Visit.Defines (visit : Visit) (definition : Text × Term) : Prop :=
  definition.2 = visit.part ∧ ∃ info nameNode options,
    visit.part = .tuple [.text "defmodule", info, .list [nameNode, options]] ∧
      Named visit.within nameNode definition.1

section Steps

/-- The body that an entry of a keyword list holds. -/
def body? : Term → Option Term
  | .tuple [.text key, body] => if key = "do" then some body else none
  | _ => none

/-- The first body in a keyword list, with its number; the first entry has the number `start`. -/
def bodyAt? (start : Nat) : List Term → Option (Nat × Term)
  | [] => none
  | entry :: rest =>
    match body? entry with
    | some body => some (start, body)
    | none => bodyAt? (start + 1) rest

/-- The places to which the search goes from a tree at once. -/
def steps (parent : Option Text) : Term → List Visit
  | .tuple [.text form, _, .list args] =>
    if form = "__block__" then args.mapIdx fun index statement => ⟨[2, index], parent, statement⟩
    else if form = "defmodule" then
      match args with
      | [nameNode, .list entries] =>
        match fullName parent nameNode, bodyAt? 0 entries with
        | some name, some (index, body) => [⟨[2, 1, index, 1], some name, body⟩]
        | _, _ => []
      | _ => []
    else []
  | _ => []

theorem body?_eq_some_iff {entry body : Term} :
    body? entry = some body ↔ entry = .tuple [.text "do", body] := by
  constructor
  · intro h
    unfold body? at h
    split at h
    · split at h
      · rename_i hkey
        obtain rfl := Option.some.inj h
        rw [hkey]
      · contradiction
    · contradiction
  · rintro rfl
    simp [body?]

theorem isBody_iff {entry : Term} :
    Normal.isBody entry = true ↔ ∃ body, entry = .tuple [.text "do", body] := by
  constructor
  · intro h
    unfold Normal.isBody at h
    split at h
    · rename_i key body
      exact ⟨body, by rw [eq_of_beq h]⟩
    · contradiction
  · rintro ⟨body, rfl⟩
    rfl

theorem body?_eq_none_iff {entry : Term} : body? entry = none ↔ Normal.isBody entry = false := by
  rw [Option.eq_none_iff_forall_ne_some, ← Bool.not_eq_true, isBody_iff, not_exists]
  simp only [ne_eq, body?_eq_some_iff]

theorem body?_of_ne {entry : Term} (hentry : ∀ key body, entry = .tuple [.text key, body] → False) :
    body? entry = none := by
  rw [Option.eq_none_iff_forall_ne_some]
  intro body hbody
  exact hentry "do" body (body?_eq_some_iff.mp hbody)

theorem bodyAt?_eq_some_iff {start : Nat} {entries : List Term} {index : Nat} {body : Term} :
    bodyAt? start entries = some (index, body) ↔
      ∃ front rest, entries = front ++ .tuple [.text "do", body] :: rest ∧
        (∀ entry ∈ front, Normal.isBody entry = false) ∧ index = start + front.length := by
  induction entries generalizing start with
  | nil => simp [bodyAt?]
  | cons entry others ih =>
      cases hentry : body? entry with
      | some found =>
          obtain rfl := body?_eq_some_iff.mp hentry
          rw [bodyAt?, hentry]
          constructor
          · intro h
            obtain ⟨rfl, rfl⟩ := Prod.mk.inj (Option.some.inj h)
            exact ⟨[], others, rfl, by simp, rfl⟩
          · rintro ⟨front, rest, heq, hfront, rfl⟩
            rcases front with _ | ⟨first, front⟩
            · simp_all
            · obtain ⟨rfl, _⟩ := List.cons.inj heq
              have hfirst := body?_eq_none_iff.mpr (hfront _ List.mem_cons_self)
              rw [hentry] at hfirst
              contradiction
      | none =>
          rw [bodyAt?, hentry, ih]
          constructor
          · rintro ⟨front, rest, rfl, hfront, rfl⟩
            refine ⟨entry :: front, rest, rfl, ?_, ?_⟩
            · exact List.forall_mem_cons.mpr ⟨body?_eq_none_iff.mp hentry, hfront⟩
            · rw [List.length_cons]
              omega
          · rintro ⟨front, rest, heq, hfront, rfl⟩
            rcases front with _ | ⟨first, front⟩
            · obtain ⟨rfl, _⟩ := List.cons.inj heq
              simp [body?] at hentry
            · obtain ⟨rfl, rfl⟩ := List.cons.inj heq
              refine ⟨front, rest, rfl, ?_, ?_⟩
              · exact fun entry hmem => hfront entry (List.mem_cons_of_mem _ hmem)
              · rw [List.length_cons]
                omega

theorem mem_steps_block {parent : Option Text} {info : Term} {statements : List Term} {visit : Visit} :
    visit ∈ steps parent (.tuple [.text "__block__", info, .list statements]) ↔
      ∃ index statement, statements[index]? = some statement ∧
        visit = ⟨[2, index], parent, statement⟩ := by
  simp only [steps, if_true, List.mem_mapIdx, List.getElem?_eq_some_iff]
  constructor
  · rintro ⟨index, hindex, rfl⟩
    exact ⟨index, _, ⟨hindex, rfl⟩, rfl⟩
  · rintro ⟨index, _, ⟨hindex, rfl⟩, rfl⟩
    exact ⟨index, hindex, rfl⟩

theorem mem_steps_module {parent : Option Text} {info nameNode : Term} {entries : List Term}
    {visit : Visit} :
    visit ∈ steps parent (.tuple [.text "defmodule", info, .list [nameNode, .list entries]]) ↔
      ∃ name front body rest, Named parent nameNode name ∧
        entries = front ++ .tuple [.text "do", body] :: rest ∧
        (∀ entry ∈ front, Normal.isBody entry = false) ∧
        visit = ⟨[2, 1, front.length, 1], some name, body⟩ := by
  have hform : ¬ (Text.plain "defmodule" = "__block__") := by decide
  simp only [steps, hform, if_false, if_true]
  constructor
  · intro h
    split at h
    · rename_i name index body hname hbody
      obtain rfl := List.mem_singleton.mp h
      obtain ⟨front, rest, rfl, hfront, rfl⟩ := bodyAt?_eq_some_iff.mp hbody
      refine ⟨name, front, body, rest, fullName_eq_some_iff.mp hname, rfl, hfront, ?_⟩
      rw [Nat.zero_add]
    · contradiction
  · rintro ⟨name, front, body, rest, hname, rfl, hfront, rfl⟩
    have hbody : bodyAt? 0 (front ++ .tuple [.text "do", body] :: rest) =
        some (front.length, body) :=
      bodyAt?_eq_some_iff.mpr ⟨front, rest, rfl, hfront, (Nat.zero_add _).symm⟩
    rw [fullName_eq_some_iff.mpr hname, hbody]
    exact List.mem_singleton.mpr rfl

/-- From other trees the search goes nowhere. -/
theorem exists_of_mem_steps {parent : Option Text} {tree : Term} {visit : Visit}
    (hvisit : visit ∈ steps parent tree) :
    (∃ info statements, tree = .tuple [.text "__block__", info, .list statements]) ∨
      ∃ info nameNode entries, tree = .tuple [.text "defmodule", info,
        .list [nameNode, .list entries]] := by
  unfold steps at hvisit
  split at hvisit
  · rename_i form info args
    by_cases hblock : form = "__block__"
    · subst hblock
      exact .inl ⟨info, args, rfl⟩
    · rw [if_neg hblock] at hvisit
      split at hvisit
      · rename_i hmodule
        subst hmodule
        split at hvisit
        · rename_i nameNode entries
          exact .inr ⟨info, nameNode, entries, rfl⟩
        · contradiction
      · contradiction
  · contradiction

theorem sizeOf_lt_of_mem_steps {parent : Option Text} {tree : Term} {visit : Visit}
    (hvisit : visit ∈ steps parent tree) : sizeOf visit.part < sizeOf tree := by
  rcases exists_of_mem_steps hvisit with ⟨info, statements, rfl⟩ | ⟨info, nameNode, entries, rfl⟩
  · obtain ⟨index, statement, hstatement, rfl⟩ := mem_steps_block.mp hvisit
    have hlt := List.sizeOf_lt_of_mem (List.mem_of_getElem? hstatement)
    simp only [Term.tuple.sizeOf_spec, Term.list.sizeOf_spec, List.cons.sizeOf_spec]
    omega
  · obtain ⟨name, front, body, rest, -, rfl, -, rfl⟩ := mem_steps_module.mp hvisit
    have hlt := List.sizeOf_lt_of_mem
      (List.mem_append_right front (List.mem_cons_self (a := Term.tuple [.text "do", body]) (l := rest)))
    simp only [Term.tuple.sizeOf_spec, Term.list.sizeOf_spec, List.cons.sizeOf_spec] at hlt ⊢
    omega

end Steps

section Places

/-- All places to which the search of a tree comes, in the order in which it comes to them. -/
def visits (parent : Option Text) (tree : Term) : List Visit :=
  ⟨[], parent, tree⟩ :: (steps parent tree).attach.flatMap fun step =>
    (visits step.1.within step.1.part).map (Visit.shift step.1.position)
termination_by sizeOf tree
decreasing_by exact sizeOf_lt_of_mem_steps step.2

variable {parent : Option Text} {tree : Term}

theorem Visit.shift_shift (above front : List Nat) (visit : Visit) :
    (visit.shift front).shift above = visit.shift (above ++ front) := by
  simp [shift]

/-- Where the search goes from a place to which it comes. -/
theorem Visited.step {visit step : Visit} (hvisit : Visited parent tree visit)
    (hstep : step ∈ steps visit.within visit.part) :
    Visited parent tree (step.shift visit.position) := by
  obtain ⟨position, within, part⟩ := visit
  rcases exists_of_mem_steps hstep with ⟨info, statements, rfl⟩ | ⟨info, nameNode, entries, rfl⟩
  · obtain ⟨index, statement, hstatement, rfl⟩ := mem_steps_block.mp hstep
    exact hvisit.statement hstatement
  · obtain ⟨name, front, body, rest, hname, rfl, hfront, rfl⟩ := mem_steps_module.mp hstep
    exact hvisit.body hname hfront

/-- What holds of the root, and of a step from a place of which it holds, holds of every place. -/
@[elab_as_elim] theorem Visited.by_steps
    {motive : (visit : Visit) → Visited parent tree visit → Prop} (root : motive _ .root)
    (step : ∀ (visit step : Visit) (hvisit : Visited parent tree visit)
      (hstep : step ∈ steps visit.within visit.part), motive visit hvisit →
      motive (step.shift visit.position) (hvisit.step hstep))
    {visit : Visit} (hvisit : Visited parent tree visit) : motive visit hvisit := by
  induction hvisit with
  | root => exact root
  | statement hvisit hstatement ih =>
      exact step _ _ hvisit (mem_steps_block.mpr ⟨_, _, hstatement, rfl⟩) ih
  | body hvisit hname hfront ih =>
      exact step _ _ hvisit (mem_steps_module.mpr ⟨_, _, _, _, hname, rfl, hfront, rfl⟩) ih

theorem Visited.trans {visit inner : Visit} (hvisit : Visited parent tree visit)
    (hinner : Visited visit.within visit.part inner) :
    Visited parent tree (inner.shift visit.position) := by
  induction hinner using Visited.by_steps with
  | root => simpa [Visit.shift] using hvisit
  | step place step _ hstep ih =>
      rw [Visit.shift_shift]
      exact ih.step hstep

theorem mem_visits {visit : Visit} :
    visit ∈ visits parent tree ↔
      visit = ⟨[], parent, tree⟩ ∨ ∃ step ∈ steps parent tree,
        ∃ inner ∈ visits step.within step.part, inner.shift step.position = visit := by
  rw [visits, List.mem_cons]
  simp only [List.mem_flatMap, List.mem_map, List.mem_attach, true_and, Subtype.exists]
  simp only [exists_prop]

/-- With a place the list has all those to which the search goes from it. -/
theorem mem_visits_step {visit step : Visit} (hvisit : visit ∈ visits parent tree)
    (hstep : step ∈ steps visit.within visit.part) :
    step.shift visit.position ∈ visits parent tree := by
  induction parent, tree using visits.induct generalizing visit with
  | case1 parent tree ih =>
      rcases mem_visits.mp hvisit with rfl | ⟨first, hfirst, inner, hinner, rfl⟩
      · refine mem_visits.mpr (.inr ⟨step, hstep, ⟨[], step.within, step.part⟩, ?_, ?_⟩)
        · exact mem_visits.mpr (.inl rfl)
        · simp [Visit.shift]
      · have hmem := ih ⟨first, hfirst⟩ hinner hstep
        refine mem_visits.mpr (.inr ⟨first, hfirst, _, hmem, ?_⟩)
        rw [Visit.shift_shift]
        rfl

/-- The list has just the places to which the search comes. -/
theorem mem_visits_iff {visit : Visit} :
    visit ∈ visits parent tree ↔ Visited parent tree visit := by
  constructor
  · intro hvisit
    induction parent, tree using visits.induct generalizing visit with
    | case1 parent tree ih =>
        rcases mem_visits.mp hvisit with rfl | ⟨step, hstep, inner, hinner, rfl⟩
        · exact .root
        · have hfirst : Visited parent tree step := Visited.root.step hstep
          exact hfirst.trans (ih ⟨step, hstep⟩ hinner)
  · intro hvisit
    induction hvisit using Visited.by_steps with
    | root => exact mem_visits.mpr (.inl rfl)
    | step visit step _ hstep ih => exact mem_visits_step ih hstep

/-- Steps from one tree lead to places apart: what is inside one comes before what is inside the
next. -/
theorem pairwise_steps (parent : Option Text) (tree : Term) :
    (steps parent tree).Pairwise fun first second =>
      ∀ inside other, first.position ++ inside < second.position ++ other := by
  unfold steps
  split
  · split
    · rw [List.pairwise_iff_getElem]
      intro first second _ _ hlt inside other
      simp only [List.getElem_mapIdx, List.cons_append, List.nil_append]
      exact List.cons_lt_cons_iff.mpr (.inr ⟨rfl, List.cons_lt_cons_iff.mpr (.inl hlt)⟩)
    · split
      · split
        · split
          · exact List.pairwise_singleton _ _
          · exact .nil
        · exact .nil
      · exact .nil
  · exact .nil

theorem position_ne_nil_of_mem_steps {step : Visit} (hstep : step ∈ steps parent tree) :
    step.position ≠ [] := by
  rcases exists_of_mem_steps hstep with ⟨info, statements, rfl⟩ | ⟨info, nameNode, entries, rfl⟩
  · obtain ⟨index, statement, _, rfl⟩ := mem_steps_block.mp hstep
    exact List.cons_ne_nil _ _
  · obtain ⟨name, front, body, rest, _, _, _, rfl⟩ := mem_steps_module.mp hstep
    exact List.cons_ne_nil _ _

/-- The list has the places in the order in which they stand in the tree, none of them twice. -/
theorem pairwise_visits (parent : Option Text) (tree : Term) :
    (visits parent tree).Pairwise fun first second => first.position < second.position := by
  induction parent, tree using visits.induct with
  | case1 parent tree ih =>
      rw [visits, List.pairwise_cons]
      constructor
      · intro visit hvisit
        obtain ⟨step, _, hvisit⟩ := List.mem_flatMap.mp hvisit
        obtain ⟨inner, _, rfl⟩ := List.mem_map.mp hvisit
        obtain ⟨index, rest, hposition⟩ :=
          List.exists_cons_of_ne_nil (position_ne_nil_of_mem_steps step.2)
        simp only [Visit.shift, hposition, List.cons_append]
        exact List.nil_lt_cons _ _
      · rw [List.pairwise_flatMap]
        constructor
        · intro step _
          rw [List.pairwise_map]
          exact (ih step).imp fun hlt => List.append_left_lt hlt
        · have hsteps := pairwise_steps parent tree
          rw [← List.attach_map_subtype_val (steps parent tree), List.pairwise_map] at hsteps
          apply hsteps.imp
          intro first second hapart visit hvisit other hother
          obtain ⟨inside, _, rfl⟩ := List.mem_map.mp hvisit
          obtain ⟨outside, _, rfl⟩ := List.mem_map.mp hother
          exact hapart inside.position outside.position

end Places

section Found

/-- Listings one after the other. -/
def join (listings : List Listing) : Listing := listings.foldr (· ++ ·) {}

/-- The module that is defined at a place. -/
def Visit.definition? (visit : Visit) : Option (Text × Term) :=
  match visit.part with
  | .tuple [.text form, _, .list [nameNode, _]] =>
    if form = "defmodule" then (fullName visit.within nameNode).map (·, visit.part) else none
  | _ => none

/-- What is found at a place, apart from what is inside it. -/
def Visit.found (visit : Visit) : Listing :=
  if visit.part.lacksStatements then { endless := true }
  else { modules := visit.definition?.toList }

theorem Visit.definition?_eq_some_iff {visit : Visit} {definition : Text × Term} :
    visit.definition? = some definition ↔ visit.Defines definition := by
  obtain ⟨name, node⟩ := definition
  constructor
  · intro h
    unfold definition? at h
    split at h
    · rename_i form info nameNode options hpart
      split at h
      · rename_i hform
        obtain ⟨found, hfound, heq⟩ := Option.map_eq_some_iff.mp h
        obtain ⟨rfl, rfl⟩ := Prod.mk.inj heq
        refine ⟨rfl, info, nameNode, options, ?_, fullName_eq_some_iff.mp hfound⟩
        rw [hpart, hform]
      · contradiction
    · contradiction
  · rintro ⟨hnode, info, nameNode, options, hpart, hname⟩
    simp only at hnode hname
    subst hnode
    simp [definition?, hpart, fullName_eq_some_iff.mpr hname]

theorem Visit.found_of_defines_nothing {visit : Visit} (hlacks : visit.part.lacksStatements = false)
    (hnothing : ∀ definition, ¬ visit.Defines definition) : visit.found = {} := by
  have hnone : visit.definition? = none := by
    rw [Option.eq_none_iff_forall_ne_some]
    intro definition hdefinition
    exact hnothing definition (definition?_eq_some_iff.mp hdefinition)
  simp [found, hlacks, hnone]

@[simp] theorem empty_append (listing : Listing) : ({} : Listing) ++ listing = listing := rfl

@[simp] theorem append_empty (listing : Listing) : listing ++ ({} : Listing) = listing := by
  change append listing {} = listing
  obtain ⟨modules, endless⟩ := listing
  cases endless <;> simp [append]

theorem append_assoc (first second third : Listing) :
    first ++ second ++ third = first ++ (second ++ third) := by
  change append (append first second) third = append first (append second third)
  obtain ⟨modules, endless⟩ := first
  cases endless with
  | true => rfl
  | false =>
      by_cases hsecond : second.endless = true <;> simp [append, hsecond]

theorem join_cons (listing : Listing) (rest : List Listing) :
    join (listing :: rest) = listing ++ join rest := rfl

theorem join_append (front back : List Listing) : join (front ++ back) = join front ++ join back := by
  induction front with
  | nil => rfl
  | cons listing rest ih => rw [List.cons_append, join_cons, ih, join_cons, append_assoc]

theorem join_flatMap {α : Type} (items : List α) (listings : α → List Listing) :
    join (items.flatMap listings) = join (items.map fun item => join (listings item)) := by
  induction items with
  | nil => rfl
  | cons item rest ih => rw [List.flatMap_cons, join_append, ih, List.map_cons, join_cons]

theorem ofStatements_eq_join (parent : Option Text) (statements : List Term) :
    ofStatements parent statements = join (statements.map (ofTree parent)) := by
  induction statements with
  | nil => rfl
  | cons statement rest ih => rw [ofStatements, ih, List.map_cons, join_cons]

theorem ofBody_cons (name : Text) (entry : Term) (rest : List Term) :
    ofBody name (entry :: rest) =
      match body? entry with
      | some body => ofTree (some name) body
      | none => ofBody name rest := by
  by_cases hentry : ∃ key body, entry = .tuple [.text key, body]
  · obtain ⟨key, body, rfl⟩ := hentry
    by_cases hkey : key = "do" <;> simp [ofBody, body?, hkey]
  · have hshape : ∀ key body, entry = .tuple [.text key, body] → False :=
      fun key body heq => hentry ⟨key, body, heq⟩
    rw [ofBody.eq_3 name entry rest hshape, body?_of_ne hshape]

theorem lookup_cons (entry : Term) (rest : List Term) :
    Term.keyword.lookup "do" (entry :: rest) =
      match body? entry with
      | some body => body
      | none => Term.keyword.lookup "do" rest := by
  by_cases hentry : ∃ key body, entry = .tuple [.text key, body]
  · obtain ⟨key, body, rfl⟩ := hentry
    by_cases hkey : key = "do" <;> simp [Term.keyword.lookup, body?, hkey]
  · have hshape : ∀ key body, entry = .tuple [.text key, body] → False :=
      fun key body heq => hentry ⟨key, body, heq⟩
    rw [Term.keyword.lookup.eq_3 "do" entry rest hshape, body?_of_ne hshape]

theorem lookup_eq (start : Nat) (entries : List Term) :
    Term.keyword.lookup "do" entries = ((bodyAt? start entries).map Prod.snd).getD .null := by
  induction entries generalizing start with
  | nil => rfl
  | cons entry rest ih =>
      rw [lookup_cons, bodyAt?]
      cases body? entry with
      | some body => rfl
      | none => exact ih (start + 1)

@[simp] theorem ofTree_null (parent : Option Text) : ofTree parent .null = {} := rfl

theorem ofBody_eq (name : Text) (entries : List Term) :
    ofBody name entries = ofTree (some name) (Term.keyword.lookup "do" entries) := by
  induction entries with
  | nil => rfl
  | cons entry rest ih =>
      rw [ofBody_cons, lookup_cons]
      cases body? entry with
      | some body => rfl
      | none => exact ih

section Shapes

variable (parent : Option Text)

theorem ofTree_block (info : Term) (statements : List Term) :
    ofTree parent (.tuple [.text "__block__", info, .list statements]) =
      join (statements.map (ofTree parent)) := by
  rw [← ofStatements_eq_join]
  simp [ofTree]

theorem ofTree_of_lacksStatements {tree : Term} (htree : tree.lacksStatements = true) :
    ofTree parent tree = { endless := true } := by
  unfold Term.lacksStatements at htree
  split at htree
  · contradiction
  · rename_i form info args hargs
    obtain rfl := eq_of_beq htree
    cases args with
    | list statements => exact (hargs statements rfl).elim
    | _ => simp [ofTree]
  · contradiction

/-- A module that can be named has itself and the modules of its body. -/
theorem ofTree_module (info options : Term) {nameNode : Term} {name : Text}
    (hname : fullName parent nameNode = some name) :
    ofTree parent (.tuple [.text "defmodule", info, .list [nameNode, options]]) =
      { modules := [(name, .tuple [.text "defmodule", info, .list [nameNode, options]])] } ++
        ofTree (some name) (options.keyword "do") := by
  have hform : ¬ (Text.plain "defmodule" = "__block__") := by decide
  cases options with
  | list entries => simp [ofTree, hform, hname, Term.keyword, ofBody_eq]
  | _ => simp [ofTree, hform, hname, Term.keyword]

/-- Nothing is found in a tree that is neither a block nor a module with a name. -/
theorem ofTree_of_nothing {tree : Term} (hblock : tree.hasForm "__block__" = false)
    (hmodule : ∀ info nameNode options,
      tree = .tuple [.text "defmodule", info, .list [nameNode, options]] →
        fullName parent nameNode = none) :
    ofTree parent tree = {} := by
  rw [ofTree.eq_def]
  split
  · rename_i form info args
    split
    · rename_i hform
      simp [Term.hasForm, hform] at hblock
    · split
      · rename_i hform
        subst hform
        split
        · rename_i nameNode options
          rw [hmodule info nameNode options rfl]
        · rfl
      · rfl
  · rfl

/-- What the search can meet: a block, a block without statements, a module with a name, or a tree
that it passes over. -/
theorem shapes (tree : Term) :
    (∃ info statements, tree = .tuple [.text "__block__", info, .list statements]) ∨
      tree.lacksStatements = true ∨
      (∃ info nameNode options name,
        tree = .tuple [.text "defmodule", info, .list [nameNode, options]] ∧
          fullName parent nameNode = some name) ∨
      (tree.hasForm "__block__" = false ∧ ∀ info nameNode options,
        tree = .tuple [.text "defmodule", info, .list [nameNode, options]] →
          fullName parent nameNode = none) := by
  by_cases hblock : tree.hasForm "__block__" = true
  · obtain ⟨info, args, rfl⟩ := Term.hasForm_iff.mp hblock
    cases args with
    | list statements => exact .inl ⟨info, statements, rfl⟩
    | _ => exact .inr (.inl rfl)
  · by_cases hmodule : ∃ info nameNode options name,
        tree = .tuple [.text "defmodule", info, .list [nameNode, options]] ∧
          fullName parent nameNode = some name
    · exact .inr (.inr (.inl hmodule))
    · refine .inr (.inr (.inr ⟨Bool.eq_false_iff.mpr hblock, ?_⟩))
      intro info nameNode options htree
      rw [Option.eq_none_iff_forall_ne_some]
      intro name hname
      exact hmodule ⟨info, nameNode, options, name, htree, hname⟩

end Shapes

theorem hasForm_of_lacksStatements {tree : Term} (htree : tree.lacksStatements = true) :
    tree.hasForm "__block__" = true := by
  unfold Term.lacksStatements at htree
  split at htree
  · contradiction
  · exact htree
  · contradiction

/-- From a module with a name the search goes on to what its options have as the body. -/
theorem join_steps_module {parent : Option Text} {nameNode : Term} {name : Text} (info options : Term)
    (hname : fullName parent nameNode = some name) :
    join ((steps parent (.tuple [.text "defmodule", info, .list [nameNode, options]])).map
      fun step => ofTree step.within step.part) = ofTree (some name) (options.keyword "do") := by
  have hform : ¬ (Text.plain "defmodule" = "__block__") := by decide
  cases options with
  | list entries =>
      rw [Term.keyword, lookup_eq 0]
      cases hbody : bodyAt? 0 entries <;> simp [steps, hform, hname, hbody, join]
  | _ => simp [steps, hform, join, Term.keyword]

/-- A tree has what is found at its root, and what is found from the steps that lead on. -/
theorem ofTree_eq_join_steps (parent : Option Text) (tree : Term) :
    ofTree parent tree = (Visit.mk [] parent tree).found ++
      join ((steps parent tree).map fun step => ofTree step.within step.part) := by
  rcases shapes parent tree with
    ⟨info, statements, rfl⟩ | hlacks | ⟨info, nameNode, options, name, rfl, hname⟩ |
      ⟨hblock, hmodule⟩
  · have hfound : (Visit.mk [] parent (.tuple [.text "__block__", info, .list statements])).found =
        {} := Visit.found_of_defines_nothing rfl (by simp [Visit.Defines])
    have hsteps : (steps parent (.tuple [.text "__block__", info, .list statements])).map
        (fun step => ofTree step.within step.part) = statements.map (ofTree parent) := by
      apply List.ext_getElem <;> simp [steps]
    rw [ofTree_block, hfound, hsteps, empty_append]
  · rw [ofTree_of_lacksStatements parent hlacks, Visit.found, if_pos hlacks]
    rfl
  · rw [ofTree_module parent info options hname, join_steps_module info options hname]
    simp [Visit.found, Visit.definition?, hname, Term.lacksStatements]
  · have hunnamed {info nameNode options : Term} {name : Text}
        (htree : tree = .tuple [.text "defmodule", info, .list [nameNode, options]]) :
        ¬ Named parent nameNode name := by
      intro hname
      rw [← fullName_eq_some_iff, hmodule _ _ _ htree] at hname
      contradiction
    have hlacks : tree.lacksStatements = false := by
      rw [Bool.eq_false_iff]
      intro hlacks
      rw [hasForm_of_lacksStatements hlacks] at hblock
      contradiction
    have hfound : (Visit.mk [] parent tree).found = {} := by
      refine Visit.found_of_defines_nothing hlacks ?_
      rintro definition ⟨_, info, nameNode, options, htree, hname⟩
      exact hunnamed htree hname
    have hsteps : steps parent tree = [] := by
      rw [List.eq_nil_iff_forall_not_mem]
      intro step hstep
      rcases exists_of_mem_steps hstep with ⟨info, statements, rfl⟩ | ⟨info, nameNode, entries, rfl⟩
      · contradiction
      · obtain ⟨name, _, _, _, hname, _⟩ := mem_steps_module.mp hstep
        exact hunnamed rfl hname
    rw [ofTree_of_nothing parent hblock hmodule, hfound, hsteps]
    rfl

/-- A tree has what is found at its places, one after the other. -/
theorem ofTree_eq_join_visits (parent : Option Text) (tree : Term) :
    ofTree parent tree = join ((visits parent tree).map Visit.found) := by
  induction parent, tree using visits.induct with
  | case1 parent tree ih =>
      have hsteps : (steps parent tree).map (fun step => ofTree step.within step.part) =
          (steps parent tree).attach.map fun step =>
            join (((visits step.1.within step.1.part).map (Visit.shift step.1.position)).map
              Visit.found) := by
        rw [← List.attach_map_val]
        apply List.map_congr_left
        intro step _
        rw [ih step, List.map_map]
        rfl
      rw [ofTree_eq_join_steps, hsteps, visits, List.map_cons, join_cons, List.map_flatMap,
        join_flatMap]

/-- The places before the first block without statements. -/
def reached (parent : Option Text) (tree : Term) : List Visit :=
  (visits parent tree).takeWhile fun visit => !visit.part.lacksStatements

theorem join_found (places : List Visit) :
    join (places.map Visit.found) =
      ⟨(places.takeWhile fun visit => !visit.part.lacksStatements).filterMap Visit.definition?,
        places.any fun visit => visit.part.lacksStatements⟩ := by
  induction places with
  | nil => rfl
  | cons visit rest ih =>
      rw [List.map_cons, join_cons, ih, Visit.found]
      cases hlacks : visit.part.lacksStatements with
      | true => simp [hlacks, HAppend.hAppend, Append.append, append]
      | false =>
          rw [List.takeWhile_cons_of_pos (by simp [hlacks]), List.any_cons, hlacks, Bool.false_or,
            List.filterMap_cons]
          cases visit.definition? with
          | none => rfl
          | some definition => rfl

theorem ofTree_eq_reached (parent : Option Text) (tree : Term) :
    ofTree parent tree = ⟨(reached parent tree).filterMap Visit.definition?,
      (visits parent tree).any fun visit => visit.part.lacksStatements⟩ := by
  rw [ofTree_eq_join_visits, join_found]
  rfl

/-- The search never ends just if it comes to a block without statements. -/
theorem endless_ofTree_iff {parent : Option Text} {tree : Term} :
    (ofTree parent tree).endless = true ↔
      ∃ visit, Visited parent tree visit ∧ visit.part.lacksStatements = true := by
  rw [ofTree_eq_reached]
  simp only [List.any_eq_true, mem_visits_iff]

/-- Places in order, up to the first that is not kept, are those before all that are not kept. -/
theorem mem_takeWhile_of_pairwise {places : List Visit} {keep : Visit → Bool} {visit : Visit}
    (hplaces : places.Pairwise fun first second => first.position < second.position) :
    visit ∈ places.takeWhile keep ↔
      visit ∈ places ∧ ∀ other ∈ places, keep other = false → visit.position < other.position := by
  induction places with
  | nil => simp
  | cons place rest ih =>
      obtain ⟨hfirst, hrest⟩ := List.pairwise_cons.mp hplaces
      cases hkeep : keep place with
      | false =>
          rw [List.takeWhile_cons_of_neg (by simp [hkeep])]
          constructor
          · intro hvisit
            contradiction
          · rintro ⟨hvisit, hbefore⟩
            have hlt := hbefore place List.mem_cons_self hkeep
            rcases List.mem_cons.mp hvisit with rfl | hvisit
            · exact (List.lt_irrefl _ hlt).elim
            · exact (List.lt_asymm hlt (hfirst visit hvisit)).elim
      | true =>
          rw [List.takeWhile_cons_of_pos hkeep, List.mem_cons, List.mem_cons, ih hrest]
          constructor
          · rintro (rfl | ⟨hvisit, hbefore⟩)
            · refine ⟨.inl rfl, ?_⟩
              intro other hother hnot
              rcases List.mem_cons.mp hother with rfl | hother
              · rw [hkeep] at hnot
                contradiction
              · exact hfirst other hother
            · refine ⟨.inr hvisit, ?_⟩
              intro other hother hnot
              rcases List.mem_cons.mp hother with rfl | hother
              · rw [hkeep] at hnot
                contradiction
              · exact hbefore other hother hnot
          · rintro ⟨rfl | hvisit, hbefore⟩
            · exact .inl rfl
            · refine .inr ⟨hvisit, ?_⟩
              intro other hother hnot
              exact hbefore other (List.mem_cons_of_mem _ hother) hnot

theorem mem_reached_iff {parent : Option Text} {tree : Term} {visit : Visit} :
    visit ∈ reached parent tree ↔ Visited parent tree visit ∧
      ∀ block, Visited parent tree block → block.part.lacksStatements = true →
        visit.position < block.position := by
  rw [reached, mem_takeWhile_of_pairwise (pairwise_visits parent tree)]
  simp only [mem_visits_iff, Bool.not_eq_false']

/-- Every listed module is defined at a place to which the search comes. -/
theorem exists_visit_of_mem {parent : Option Text} {tree : Term} {definition : Text × Term}
    (hmem : definition ∈ (ofTree parent tree).modules) :
    ∃ visit, Visited parent tree visit ∧ visit.Defines definition := by
  rw [ofTree_eq_reached] at hmem
  obtain ⟨visit, hvisit, hdefinition⟩ := List.mem_filterMap.mp hmem
  exact ⟨visit, (mem_reached_iff.mp hvisit).1, Visit.definition?_eq_some_iff.mp hdefinition⟩

end Found

end Listing

end CallAtlas
