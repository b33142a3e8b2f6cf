import CallAtlas.Proofs.Module.Listed

/-!
How the names of modules are composed.  The name of a module is the name of the module around it, a
dot, and its own path; a leading `__MODULE__` of the path stands for the name around it.

So a tree that is read inside a module has the modules that it has on its own, each with the name of
that module and a dot before its own name.  This needs two things of the tree: no module in it has an
empty name, as nothing is put before what is inside such a module, and no outermost definition starts
with `__MODULE__`, as it has no name unless there is a module around it.
-/

namespace CallAtlas

namespace Term

/-- The outermost statements of a tree: the tree itself, and the statements of outermost blocks. -/
inductive AtTop (tree : Term) : Term → Prop
  | self : AtTop tree tree
  | statement {info : Term} {statements : List Term} {statement : Term} :
      AtTop tree (.tuple [.text "__block__", info, .list statements]) →
      statement ∈ statements → AtTop tree statement

/-- A definition is an outermost statement in the body of another. -/
def Encloses (outer inner : Term) : Prop :=
  ∃ info nameNode options,
    outer = .tuple [.text "defmodule", info, .list [nameNode, options]] ∧
      AtTop (options.keyword "do") inner

/-- A name node starts with `__MODULE__`. -/
def IsRelative (nameNode : Term) : Prop :=
  ∃ info moduleInfo moduleArgs rest, nameNode = .tuple [.text "__aliases__", info,
    .list (.tuple [.text "__MODULE__", moduleInfo, moduleArgs] :: rest)]

/-- The path by which a definition names its module, apart from a leading `__MODULE__`. -/
inductive Declares : Term → List Text → Prop
  | plain (info nameInfo options : Term) {own : List Text} (hown : own ≠ []) :
      Declares (.tuple [.text "defmodule", info,
        .list [.tuple [.text "__aliases__", nameInfo, .list (own.map .text)], options]]) own
  | relative (info nameInfo moduleInfo moduleArgs options : Term) (own : List Text) :
      Declares (.tuple [.text "defmodule", info,
        .list [.tuple [.text "__aliases__", nameInfo,
          .list (.tuple [.text "__MODULE__", moduleInfo, moduleArgs] :: own.map .text)],
          options]]) own

/-- Whether a term is no alias node with an empty segment. -/
def isProperAlias : Term → Bool
  | .tuple [.text form, _, .list segments] =>
    form != "__aliases__" || decide (.text "" ∉ segments)
  | _ => true

mutual
/-- Whether no alias node of a tree has an empty segment. -/
def hasProperAliases : Term → Bool
  | .list items => haveProperAliases items
  | .tuple items => isProperAlias (.tuple items) && haveProperAliases items
  | _ => true

def haveProperAliases : List Term → Bool
  | [] => true
  | item :: rest => item.hasProperAliases && haveProperAliases rest
end

theorem haveProperAliases_iff {items : List Term} :
    haveProperAliases items = true ↔ ∀ item ∈ items, item.hasProperAliases = true := by
  induction items with
  | nil => simp [haveProperAliases]
  | cons item rest ih => simp [haveProperAliases, ih]

theorem hasProperAliases_of_mem_list {items : List Term} {item : Term}
    (hitems : (list items).hasProperAliases = true) (hmem : item ∈ items) :
    item.hasProperAliases = true :=
  haveProperAliases_iff.mp hitems item hmem

theorem hasProperAliases_of_mem_tuple {items : List Term} {item : Term}
    (hitems : (tuple items).hasProperAliases = true) (hmem : item ∈ items) :
    item.hasProperAliases = true := by
  rw [hasProperAliases, Bool.and_eq_true] at hitems
  exact haveProperAliases_iff.mp hitems.2 item hmem

theorem hasProperAliases_args {form info args : Term}
    (htree : (tuple [form, info, args]).hasProperAliases = true) : args.hasProperAliases = true :=
  hasProperAliases_of_mem_tuple htree (by simp)

theorem isProperAlias_of_hasProperAliases {tree : Term} (htree : tree.hasProperAliases = true) :
    tree.isProperAlias = true := by
  cases tree with
  | tuple items =>
      rw [hasProperAliases, Bool.and_eq_true] at htree
      exact htree.1
  | _ => rfl

end Term

namespace Dotted

/-- Segments that are not empty do not make an empty name. -/
theorem join_ne_empty {own : List Text} (hown : own ≠ []) (hproper : Text.plain "" ∉ own) :
    join own ≠ "" := by
  obtain ⟨first, rest, rfl⟩ := List.exists_cons_of_ne_nil hown
  intro hjoin
  obtain rfl := eq_nil_of_join_eq_empty hjoin
  exact hproper (List.mem_singleton.mpr hjoin.symm)

theorem join_cons {own : List Text} (hown : own ≠ []) (first : Text) :
    join (first :: own) = first ++ "." ++ join own := by
  obtain ⟨second, rest, rfl⟩ := List.exists_cons_of_ne_nil hown
  exact join_cons_cons first second rest

end Dotted

namespace Listing

section Inside

/-- The name around a place when the tree is inside the module `outer`. -/
def around (outer : Text) : Option Text → Text
  | none => outer
  | some name => outer ++ "." ++ name

/-- The same place when the tree is inside the module `outer`. -/
def Visit.inside (outer : Text) (visit : Visit) : Visit :=
  { visit with within := some (around outer visit.within) }

/-- A place whose modules keep their names inside another module: the name around it is not empty,
and if there is none, no module at this place is named by it. -/
def Visit.IsRegular (visit : Visit) : Prop :=
  visit.within ≠ some (.plain "") ∧
    (visit.within = none → ∀ info nameNode options,
      visit.part = .tuple [.text "defmodule", info, .list [nameNode, options]] →
        ¬ nameNode.IsRelative)

theorem visits_eq (parent : Option Text) (tree : Term) :
    visits parent tree = ⟨[], parent, tree⟩ :: (steps parent tree).flatMap fun step =>
      (visits step.within step.part).map (Visit.shift step.position) := by
  rw [visits, List.flatMap_def, List.flatMap_def, ← List.attach_map_val (l := steps parent tree)]

variable {outer : Text} (houter : outer ≠ "")
include houter

theorem around_ne_empty (within : Option Text) : around outer within ≠ "" := by
  cases within with
  | none => exact houter
  | some name => exact Dotted.append_dot_ne_empty outer name

/-- A definition has a name inside `outer` just if it has one without, and then this name follows
that of `outer`. -/
theorem named_around_iff {within : Option Text} (hwithin : within ≠ some (.plain "")) {nameNode : Term}
    (hrelative : within = none → ¬ nameNode.IsRelative) {full : Text} :
    Named (some (around outer within)) nameNode full ↔
      ∃ name, Named within nameNode name ∧ outer ++ "." ++ name = full := by
  constructor
  · intro hfull
    generalize haround : some (around outer within) = enclosing at hfull
    cases hfull with
    | outermost => contradiction
    | unprefixed => exact (around_ne_empty houter within (Option.some.inj haround)).elim
    | nested info hown hparent =>
        obtain rfl := Option.some.inj haround
        rcases within with _ | parent
        · exact ⟨_, .outermost info hown, rfl⟩
        · refine ⟨_, .nested info hown fun hempty => hwithin (congrArg some hempty), ?_⟩
          simp only [around, Text.append_assoc]
    | relative info moduleInfo moduleArgs own parent =>
        obtain rfl := Option.some.inj haround
        rcases within with _ | parent
        · exact (hrelative rfl ⟨info, moduleInfo, moduleArgs, _, rfl⟩).elim
        · exact ⟨_, .relative info moduleInfo moduleArgs own parent,
            Text.append_joined (outer ++ ".") "." parent own⟩
  · rintro ⟨name, hname, rfl⟩
    cases hname with
    | outermost info hown => exact .nested info hown houter
    | unprefixed => contradiction
    | @nested info own hown parent hparent =>
        have hnested := Named.nested info hown (around_ne_empty houter (some parent))
        simpa only [around, Text.append_assoc] using hnested
    | relative info moduleInfo moduleArgs own parent =>
        have hinside := Named.relative info moduleInfo moduleArgs own (around outer (some parent))
        rwa [around, Dotted.join, ← Text.append_joined] at hinside

theorem fullName_around {within : Option Text} (hwithin : within ≠ some (.plain "")) {nameNode : Term}
    (hrelative : within = none → ¬ nameNode.IsRelative) :
    fullName (some (around outer within)) nameNode =
      (fullName within nameNode).map (outer ++ "." ++ ·) := by
  apply Option.ext
  intro full
  rw [fullName_eq_some_iff, named_around_iff houter hwithin hrelative, Option.map_eq_some_iff]
  simp only [fullName_eq_some_iff]

theorem Visit.definition?_inside {visit : Visit} (hregular : visit.IsRegular) :
    (visit.inside outer).definition? =
      visit.definition?.map fun definition => (outer ++ "." ++ definition.1, definition.2) := by
  obtain ⟨position, within, part⟩ := visit
  obtain ⟨hwithin, hrelative⟩ := hregular
  simp only [definition?, inside]
  split
  · rename_i form info nameNode options
    split
    · rename_i hform
      subst hform
      have hname := fullName_around houter hwithin fun hnone =>
        hrelative hnone info nameNode options rfl
      rw [hname, Option.map_map, Option.map_map]
      rfl
    · rfl
  · rfl

/-- The search goes to the same places, whether the tree is inside `outer` or not. -/
theorem steps_inside {visit : Visit} (hregular : visit.IsRegular) :
    steps (some (around outer visit.within)) visit.part =
      (steps visit.within visit.part).map (Visit.inside outer) := by
  obtain ⟨position, within, part⟩ := visit
  obtain ⟨hwithin, hrelative⟩ := hregular
  dsimp only at hwithin hrelative ⊢
  unfold steps
  split
  · rename_i form info args
    split
    · apply List.ext_getElem
      · simp
      · simp [Visit.inside]
    · split
      · rename_i hform
        subst hform
        split
        · rename_i nameNode entries
          have hname := fullName_around houter hwithin fun hnone =>
            hrelative hnone info nameNode (.list entries) rfl
          rw [hname]
          cases fullName within nameNode with
          | none => rfl
          | some name =>
              cases bodyAt? 0 entries with
              | none => rfl
              | some found => rfl
        · rfl
      · rfl
  · rfl

theorem visits_inside {parent : Option Text} {tree : Term}
    (hregular : ∀ visit, Visited parent tree visit → visit.IsRegular) :
    visits (some (around outer parent)) tree = (visits parent tree).map (Visit.inside outer) := by
  induction parent, tree using visits.induct with
  | case1 parent tree ih =>
      have hsteps := steps_inside houter (hregular _ .root)
      have hinner (step : Visit) (hstep : step ∈ steps parent tree) :
          visits (some (around outer step.within)) step.part =
            (visits step.within step.part).map (Visit.inside outer) := by
        apply ih ⟨step, hstep⟩
        intro visit hvisit
        exact hregular (visit.shift step.position) ((Visited.root.step hstep).trans hvisit)
      have hshift (step : Visit) (places : List Visit) :
          (places.map (Visit.inside outer)).map (Visit.shift step.position) =
            (places.map (Visit.shift step.position)).map (Visit.inside outer) := by
        rw [List.map_map, List.map_map]
        rfl
      rw [visits_eq, visits_eq, hsteps, List.flatMap_map, List.map_cons, List.map_flatMap]
      congr 1
      apply List.flatMap_congr
      intro step hstep
      rw [← hshift, ← hinner step hstep]
      rfl

/-- Inside `outer` a tree has the modules that it has on its own, under the name of `outer`. -/
theorem ofTree_inside {parent : Option Text} {tree : Term}
    (hregular : ∀ visit, Visited parent tree visit → visit.IsRegular) :
    ofTree (some (around outer parent)) tree =
      ⟨(ofTree parent tree).modules.map fun definition =>
          (outer ++ "." ++ definition.1, definition.2),
        (ofTree parent tree).endless⟩ := by
  rw [ofTree_eq_reached, ofTree_eq_reached, reached, reached, visits_inside houter hregular,
    List.takeWhile_map, List.filterMap_map, List.any_map, List.map_filterMap]
  congr 1
  apply List.filterMap_congr
  intro visit hvisit
  have hvisited := mem_visits_iff.mp (List.takeWhile_sublist _ |>.mem hvisit)
  exact Visit.definition?_inside houter (hregular visit hvisited)

end Inside

section Enclosing

theorem lt_append_cons (position : List Nat) (index : Nat) (rest : List Nat) :
    position < position ++ index :: rest := by
  have hlt : position ++ [] < position ++ index :: rest :=
    List.append_left_lt (List.nil_lt_cons index rest)
  rwa [List.append_nil] at hlt

theorem keyword_body {front : List Term} (hfront : ∀ entry ∈ front, Normal.isBody entry = false)
    (body : Term) (rest : List Term) :
    (Term.list (front ++ .tuple [.text "do", body] :: rest)).keyword "do" = body := by
  rw [Term.keyword, lookup_eq 0, bodyAt?_eq_some_iff.mpr ⟨front, rest, rfl, hfront, rfl⟩]
  rfl

theorem pairwise_reached (parent : Option Text) (tree : Term) :
    (reached parent tree).Pairwise fun first second => first.position < second.position :=
  (pairwise_visits parent tree).sublist (List.takeWhile_sublist _)

/-- Of places in order, those before a place of the list stand in front of it. -/
theorem mem_front_of_lt {front rest : List Visit} {place visit : Visit}
    (hsorted : (front ++ visit :: rest).Pairwise fun first second =>
      first.position < second.position)
    (hplace : place ∈ front ++ visit :: rest) (hlt : place.position < visit.position) :
    place ∈ front := by
  obtain ⟨_, hback, _⟩ := List.pairwise_append.mp hsorted
  rcases List.mem_append.mp hplace with hfront | hplace
  · exact hfront
  · rcases List.mem_cons.mp hplace with rfl | hrest
    · exact (List.lt_irrefl _ hlt).elim
    · exact (List.lt_asymm hlt (List.rel_of_pairwise_cons hback hrest)).elim

variable {parent : Option Text} {tree : Term} {visit : Visit}

/-- A place is at the top of the tree, or at the top of the body of a module that is defined at a
place before it; the name of this module is the name around the place. -/
theorem Visited.enclosing (hvisit : Visited parent tree visit) :
    (visit.within = parent ∧ tree.AtTop visit.part) ∨
      ∃ place outer, Visited parent tree place ∧ place.position < visit.position ∧
        place.Defines (outer, place.part) ∧ visit.within = some outer ∧
        place.part.Encloses visit.part := by
  induction hvisit with
  | root => exact .inl ⟨rfl, .self⟩
  | @statement position within info statements index statement _ hstatement ih =>
      have hmem : statement ∈ statements := List.mem_of_getElem? hstatement
      rcases ih with ⟨hwithin, htop⟩ | ⟨place, outer, hplace, hlt, hdefines, hwithin, hencloses⟩
      · exact .inl ⟨hwithin, htop.statement hmem⟩
      · obtain ⟨moduleInfo, nameNode, options, hnode, hbody⟩ := hencloses
        refine .inr ⟨place, outer, hplace, ?_, hdefines, hwithin, ?_⟩
        · exact List.lt_trans hlt (lt_append_cons position 2 [index])
        · exact ⟨moduleInfo, nameNode, options, hnode, hbody.statement hmem⟩
  | @body position within info nameNode body front rest name hvisit hname hfront _ =>
      refine .inr ⟨_, name, hvisit, lt_append_cons position 2 _, ?_, rfl, ?_⟩
      · exact ⟨rfl, info, nameNode, _, rfl, hname⟩
      · refine ⟨info, nameNode, _, rfl, ?_⟩
        rw [keyword_body hfront]
        exact .self

theorem Visited.hasProperAliases (htree : tree.hasProperAliases = true)
    (hvisit : Visited parent tree visit) : visit.part.hasProperAliases = true := by
  induction hvisit with
  | root => exact htree
  | statement _ hstatement ih =>
      exact Term.hasProperAliases_of_mem_list (Term.hasProperAliases_args ih)
        (List.mem_of_getElem? hstatement)
  | @body _ _ _ nameNode body front rest _ _ _ _ ih =>
      have hoptions := Term.hasProperAliases_of_mem_list (Term.hasProperAliases_args ih)
        (List.mem_cons_of_mem nameNode List.mem_cons_self)
      have hentry := Term.hasProperAliases_of_mem_list hoptions
        (List.mem_append_right front List.mem_cons_self)
      exact Term.hasProperAliases_of_mem_tuple hentry
        (List.mem_cons_of_mem _ List.mem_cons_self)

theorem Named.ne_empty {within : Option Text} {nameNode : Term} {name : Text}
    (hname : Named within nameNode name) (hwithin : within ≠ some (.plain ""))
    (hproper : nameNode.isProperAlias = true) : name ≠ "" := by
  cases hname with
  | outermost info hown =>
      apply Dotted.join_ne_empty hown
      simpa [Term.isProperAlias] using hproper
  | unprefixed => contradiction
  | nested => exact Dotted.append_dot_ne_empty _ _
  | relative info moduleInfo moduleArgs own parent =>
      intro hempty
      obtain rfl := Dotted.eq_nil_of_join_eq_empty hempty
      exact hwithin (congrArg some hempty)

/-- Where no segment is empty, the name around a place is not empty. -/
theorem Visited.within_ne_empty (htree : tree.hasProperAliases = true)
    (hparent : parent ≠ some (.plain "")) (hvisit : Visited parent tree visit) :
    visit.within ≠ some (.plain "") := by
  induction hvisit with
  | root => exact hparent
  | statement _ _ ih => exact ih
  | body hvisit hname _ ih =>
      have hnameNode := Term.hasProperAliases_of_mem_list
        (Term.hasProperAliases_args (hvisit.hasProperAliases htree)) List.mem_cons_self
      intro hempty
      exact hname.ne_empty ih (Term.isProperAlias_of_hasProperAliases hnameNode)
        (Option.some.inj hempty)

theorem Named.exists_declares {within : Option Text} {nameNode : Term} {name : Text}
    (hname : Named within nameNode name) (hwithin : within ≠ some (.plain ""))
    (info options : Term) :
    ∃ own, Term.Declares (.tuple [.text "defmodule", info, .list [nameNode, options]]) own ∧
      name = Dotted.join (within.toList ++ own) := by
  cases hname with
  | outermost nameInfo hown => exact ⟨_, .plain info nameInfo options hown, rfl⟩
  | unprefixed => contradiction
  | nested nameInfo hown hparent =>
      exact ⟨_, .plain info nameInfo options hown, (Dotted.join_cons hown _).symm⟩
  | relative nameInfo moduleInfo moduleArgs own parent =>
      exact ⟨own, .relative info nameInfo moduleInfo moduleArgs options own, rfl⟩

/-- Places are regular in a tree that stands alone, if no segment is empty and no outermost
definition starts with `__MODULE__`. -/
theorem Visited.isRegular (htree : tree.hasProperAliases = true)
    (htop : ∀ info nameNode options,
      tree.AtTop (.tuple [.text "defmodule", info, .list [nameNode, options]]) →
        ¬ nameNode.IsRelative)
    (hvisit : Visited none tree visit) : visit.IsRegular := by
  refine ⟨hvisit.within_ne_empty htree (by simp), ?_⟩
  intro hnone info nameNode options hpart
  rcases hvisit.enclosing with ⟨_, hat⟩ | ⟨_, outer, _, _, _, hwithin, _⟩
  · apply htop info nameNode options
    rwa [hpart] at hat
  · rw [hnone] at hwithin
    contradiction

/-- A module is listed after the module around it, and is named by it. -/
theorem exists_enclosing (htree : tree.hasProperAliases = true) {before after : List (Text × Term)}
    {name : Text} {node : Term}
    (hmodules : (ofTree none tree).modules = before ++ (name, node) :: after) :
    ∃ own, node.Declares own ∧
      ((tree.AtTop node ∧ name = Dotted.join own) ∨
        ∃ outer enclosing, (outer, enclosing) ∈ before ∧ enclosing.Encloses node ∧
          name = Dotted.join (outer :: own)) := by
  rw [ofTree_eq_reached] at hmodules
  obtain ⟨front, back, hreached, rfl, hback⟩ := List.filterMap_eq_append_iff.mp hmodules
  obtain ⟨skipped, visit, rest, rfl, hskipped, hvisit, -⟩ := List.filterMap_eq_cons_iff.mp hback
  obtain ⟨rfl, info, nameNode, options, hpart, hname⟩ := Visit.definition?_eq_some_iff.mp hvisit
  have hmem : visit ∈ reached none tree := by simp [hreached]
  obtain ⟨hvisited, hbefore⟩ := mem_reached_iff.mp hmem
  obtain ⟨own, hdeclares, hown⟩ :=
    hname.exists_declares (hvisited.within_ne_empty htree (by simp)) info options
  refine ⟨own, hpart ▸ hdeclares, ?_⟩
  rcases hvisited.enclosing with
    ⟨hwithin, htop⟩ | ⟨place, outer, hplace, hlt, hdefines, hwithin, hencloses⟩
  · rw [hwithin] at hown
    exact .inl ⟨htop, hown⟩
  · rw [hwithin] at hown
    refine .inr ⟨outer, place.part, ?_, hencloses, hown⟩
    have hplace : place ∈ reached none tree := by
      refine mem_reached_iff.mpr ⟨hplace, ?_⟩
      intro block hblock hlacks
      exact List.lt_trans hlt (hbefore block hblock hlacks)
    have hdefinition := Visit.definition?_eq_some_iff.mpr hdefines
    have hsorted := pairwise_reached none tree
    rw [hreached, ← List.append_assoc] at hsorted
    rw [hreached, ← List.append_assoc] at hplace
    rcases List.mem_append.mp (mem_front_of_lt hsorted hplace hlt) with hfront | hskip
    · exact List.mem_filterMap.mpr ⟨place, hfront, hdefinition⟩
    · rw [hskipped place hskip] at hdefinition
      contradiction

end Enclosing

end Listing

namespace Term

/-- The names of modules are composed.  Inside another module a tree has the modules that it has on
its own, with that module's name and a dot before their names and the same definitions, in the same
order.  An outermost module has its own path as its name; any other module is listed after the module
around it, and its path follows the name of that one. -/
theorem modules_inside {tree : Term} {modules : List (Text × Term)}
    (hmodules : tree.modules none = .ok modules) (haliases : tree.hasProperAliases = true)
    (htop : ∀ info nameNode options,
      tree.AtTop (.tuple [.text "defmodule", info, .list [nameNode, options]]) →
        ¬ nameNode.IsRelative) :
    (∀ outer : Text, outer ≠ "" →
      tree.modules (some outer) =
        .ok (modules.map fun definition => (outer ++ "." ++ definition.1, definition.2))) ∧
      ∀ before name node after, modules = before ++ (name, node) :: after →
        ∃ own, node.Declares own ∧
          ((tree.AtTop node ∧ name = Dotted.join own) ∨
            ∃ outer enclosing, (outer, enclosing) ∈ before ∧ enclosing.Encloses node ∧
              name = Dotted.join (outer :: own)) := by
  have hlisting := modules_eq_ok_iff.mp hmodules
  constructor
  · intro outer houter
    have hinside := Listing.ofTree_inside houter fun _ hvisit => hvisit.isRegular haliases htop
    rw [hlisting] at hinside
    exact modules_eq_ok_iff.mpr hinside
  · intro before name node after hsplit
    have hlisted : (Listing.ofTree none tree).modules = before ++ (name, node) :: after := by
      rw [hlisting, hsplit]
    exact Listing.exists_enclosing haliases hlisted

theorem AtTop.eq_of_not_block {tree part : Term} (htree : tree.hasForm "__block__" = false)
    (hpart : tree.AtTop part) : part = tree := by
  induction hpart with
  | self => rfl
  | statement _ _ ih =>
      rw [← ih] at htree
      contradiction

/-- A module with two modules in its body, the first of which has one of its own. -/
def nestedOuter : Term :=
  moduleOf "Outer" (.tuple [.text "__block__", .list [],
    .list [moduleOf "Mid" relativeInner, .int 1, moduleOf "Last" .null]])

theorem modules_inside_app :
    nestedOuter.modules none = .ok [("Outer", nestedOuter), ("Outer.Mid", moduleOf "Mid" relativeInner),
        ("Outer.Mid.Inner", relativeInner), ("Outer.Last", moduleOf "Last" .null)] ∧
      nestedOuter.hasProperAliases = true ∧
      (∀ info nameNode options,
        nestedOuter.AtTop (.tuple [.text "defmodule", info, .list [nameNode, options]]) →
          ¬ nameNode.IsRelative) ∧
      nestedOuter.modules (some "App") =
        .ok [("App.Outer", nestedOuter), ("App.Outer.Mid", moduleOf "Mid" relativeInner),
          ("App.Outer.Mid.Inner", relativeInner), ("App.Outer.Last", moduleOf "Last" .null)] ∧
      ∃ own, relativeInner.Declares own ∧
        ((nestedOuter.AtTop relativeInner ∧ Text.plain "Outer.Mid.Inner" = Dotted.join own) ∨
          ∃ outer enclosing,
            (outer, enclosing) ∈
              [(.plain "Outer", nestedOuter), (.plain "Outer.Mid", moduleOf "Mid" relativeInner)] ∧
            enclosing.Encloses relativeInner ∧
            Text.plain "Outer.Mid.Inner" = Dotted.join (outer :: own)) := by
  have hmodules : nestedOuter.modules none =
      .ok [("Outer", nestedOuter), ("Outer.Mid", moduleOf "Mid" relativeInner),
        ("Outer.Mid.Inner", relativeInner), ("Outer.Last", moduleOf "Last" .null)] := by
    decide +kernel
  have haliases : nestedOuter.hasProperAliases = true := by decide +kernel
  have htop : ∀ info nameNode options,
      nestedOuter.AtTop (.tuple [.text "defmodule", info, .list [nameNode, options]]) →
        ¬ nameNode.IsRelative := by
    rintro info nameNode options hat ⟨_, _, _, _, rfl⟩
    have heq := hat.eq_of_not_block rfl
    simp [nestedOuter, moduleOf] at heq
  obtain ⟨hinside, hsplit⟩ := modules_inside hmodules haliases htop
  exact ⟨hmodules, haliases, htop, (hinside "App" (by decide)).trans (by decide +kernel),
    hsplit [_, _] _ _ [_] rfl⟩

end Term

end CallAtlas
