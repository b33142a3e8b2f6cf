import CallAtlas.Proofs.Module.Visits

/-!
The search for modules as it descends.  One round looks at the statements of a tree, and starts a
search below for each block and each module body among them.  For a block without statements this is
a search of the block itself: the tree does not get smaller, and the rounds need not end.

A search that may go only some rounds deep is cut off where it would go deeper.  Main statement: with
enough depth the search finds the modules that stand before the first block without statements, and it
comes to an end just if there is no such block.
-/

namespace CallAtlas.Listing

section Rounds

/-- What a search meets at one statement, where `recur` searches below it. -/
def look (recur : Option Text → Term → Listing) (parent : Option Text) (statement : Term) : Listing :=
  if statement.hasForm "__block__" then recur parent statement
  else
    match statement with
    | .tuple [.text form, _, .list [nameNode, options]] =>
      if form = "defmodule" then
        match fullName parent nameNode with
        | some name => { modules := [(name, statement)] } ++ recur (some name) (options.keyword "do")
        | none => {}
      else {}
    | _ => {}

/-- One round of the search: the statements of a tree one after the other. -/
def round (recur : Option Text → Term → Listing) (parent : Option Text) (tree : Term) : Listing :=
  join ((Normal.statements tree).map (look recur parent))

/-- The search that goes at most so many rounds deep.  Where it is cut off it has not come to an
end. -/
def search : Nat → Option Text → Term → Listing
  | 0, _, _ => { endless := true }
  | depth + 1, parent, tree => round (search depth) parent tree

variable (recur : Option Text → Term → Listing) (parent : Option Text)

theorem look_block {statement : Term} (hblock : statement.hasForm "__block__" = true) :
    look recur parent statement = recur parent statement := if_pos hblock

theorem look_module (info options : Term) {nameNode : Term} {name : Text}
    (hname : fullName parent nameNode = some name) :
    look recur parent (.tuple [.text "defmodule", info, .list [nameNode, options]]) =
      { modules := [(name, .tuple [.text "defmodule", info, .list [nameNode, options]])] } ++
        recur (some name) (options.keyword "do") := by
  have hblock : (Term.tuple [.text "defmodule", info, .list [nameNode, options]]).hasForm
      "__block__" = false := rfl
  simp [look, hblock, hname]

theorem look_of_nothing {statement : Term} (hblock : statement.hasForm "__block__" = false)
    (hmodule : ∀ info nameNode options,
      statement = .tuple [.text "defmodule", info, .list [nameNode, options]] →
        fullName parent nameNode = none) :
    look recur parent statement = {} := by
  unfold look
  rw [if_neg (Bool.eq_false_iff.mp hblock)]
  split
  · rename_i form info nameNode options
    split
    · rename_i hform
      subst hform
      rw [hmodule info nameNode options rfl]
    · rfl
  · rfl

/-- Looking at a statement finds what the listing has of it. -/
theorem look_ofTree (statement : Term) : look ofTree parent statement = ofTree parent statement := by
  rcases shapes parent statement with
    ⟨info, statements, rfl⟩ | hlacks | ⟨info, nameNode, options, name, rfl, hname⟩ |
      ⟨hblock, hmodule⟩
  · exact look_block ofTree parent rfl
  · exact look_block ofTree parent (hasForm_of_lacksStatements hlacks)
  · rw [look_module ofTree parent info options hname, ofTree_module parent info options hname]
  · rw [look_of_nothing ofTree parent hblock hmodule, ofTree_of_nothing parent hblock hmodule]

theorem statements_eq (tree : Term) :
    tree = .null ∧ Normal.statements tree = [] ∨
      (∃ info items, tree = .tuple [.text "__block__", info, .list items] ∧
        Normal.statements tree = items) ∨
      (tree.hasForm "__block__" = true → tree.lacksStatements = true) ∧
        Normal.statements tree = [tree] := by
  unfold Normal.statements
  split
  · exact .inl ⟨rfl, rfl⟩
  · rename_i form info items
    by_cases hform : form = "__block__"
    · subst hform
      exact .inr (.inl ⟨info, items, rfl, if_pos rfl⟩)
    · refine .inr (.inr ⟨?_, if_neg hform⟩)
      intro hblock
      exact (hform (eq_of_beq hblock)).elim
  · rename_i hshape
    refine .inr (.inr ⟨?_, rfl⟩)
    intro hblock
    obtain ⟨info, args, rfl⟩ := Term.hasForm_iff.mp hblock
    cases args with
    | list items => exact (hshape _ _ _ rfl).elim
    | _ => rfl

/-- The listing of a tree is what one round finds in it, with the listings of what is below. -/
theorem round_ofTree (tree : Term) : round ofTree parent tree = ofTree parent tree := by
  have hlook : look ofTree parent = ofTree parent := funext (look_ofTree parent)
  rw [round, hlook]
  rcases statements_eq tree with ⟨rfl, hitems⟩ | ⟨info, items, rfl, hitems⟩ | ⟨_, hitems⟩
  · rw [hitems, ofTree_null]
    rfl
  · rw [hitems, ofTree_block]
  · rw [hitems, List.map_singleton, join_cons]
    exact append_empty _

end Rounds

section Depth

/-- If the parts of a listing that comes to an end are those of another listing, so is the whole. -/
theorem append_of_ends {first first' second second' : Listing}
    (hfirst : first.endless = false → first = first')
    (hsecond : second.endless = false → second = second')
    (hends : (first ++ second).endless = false) : first ++ second = first' ++ second' := by
  have happend : first ++ second = append first second := rfl
  have hfirst_ends : first.endless = false := by
    by_contra hendless
    rw [happend, append, if_pos (Bool.not_eq_false _ ▸ hendless)] at hends
    exact hendless hends
  have hsecond_ends : second.endless = false := by
    rwa [happend, append, if_neg (Bool.eq_false_iff.mp hfirst_ends)] at hends
  rw [hfirst hfirst_ends, hsecond hsecond_ends]

theorem join_of_ends {α : Type} {items : List α} {found found' : α → Listing}
    (hfound : ∀ item, (found item).endless = false → found item = found' item)
    (hends : (join (items.map found)).endless = false) :
    join (items.map found) = join (items.map found') := by
  induction items with
  | nil => rfl
  | cons item rest ih => exact append_of_ends (hfound item) ih hends

theorem look_of_ends {recur recur' : Option Text → Term → Listing}
    (hrecur : ∀ parent tree, (recur parent tree).endless = false → recur parent tree = recur' parent tree)
    (parent : Option Text) (statement : Term) (hends : (look recur parent statement).endless = false) :
    look recur parent statement = look recur' parent statement := by
  rcases shapes parent statement with
    ⟨info, statements, rfl⟩ | hlacks | ⟨info, nameNode, options, name, rfl, hname⟩ |
      ⟨hblock, hmodule⟩
  · exact hrecur _ _ hends
  · have hblock := hasForm_of_lacksStatements hlacks
    rw [look_block recur parent hblock] at hends ⊢
    rw [look_block recur' parent hblock]
    exact hrecur _ _ hends
  · rw [look_module recur parent info options hname] at hends ⊢
    rw [look_module recur' parent info options hname]
    exact append_of_ends (fun _ => rfl) (hrecur _ _) hends
  · rw [look_of_nothing recur parent hblock hmodule, look_of_nothing recur' parent hblock hmodule]

/-- A search that comes to an end within some depth has found the whole listing. -/
theorem search_of_ends {depth : Nat} {parent : Option Text} {tree : Term}
    (hends : (search depth parent tree).endless = false) :
    search depth parent tree = ofTree parent tree := by
  induction depth generalizing parent tree with
  | zero => contradiction
  | succ depth ih =>
      rw [← round_ofTree]
      refine join_of_ends ?_ hends
      exact look_of_ends (fun _ _ => ih) parent

/-- A block without statements is searched again and again, to any depth. -/
theorem search_of_lacksStatements (depth : Nat) (parent : Option Text) {tree : Term}
    (hlacks : tree.lacksStatements = true) : search depth parent tree = { endless := true } := by
  have hblock := hasForm_of_lacksStatements hlacks
  have hitems : Normal.statements tree = [tree] := by
    rcases statements_eq tree with ⟨rfl, _⟩ | ⟨info, items, rfl, _⟩ | ⟨_, hitems⟩
    · contradiction
    · contradiction
    · exact hitems
  induction depth with
  | zero => rfl
  | succ depth ih =>
      rw [search, round, hitems, List.map_singleton, look_block _ _ hblock, ih]
      rfl

theorem sizeOf_lookup_le (entries : List Term) :
    sizeOf (Term.keyword.lookup "do" entries) ≤ sizeOf entries := by
  induction entries with
  | nil => simp [Term.keyword.lookup]
  | cons entry rest ih =>
      rw [lookup_cons, List.cons.sizeOf_spec]
      cases hbody : body? entry with
      | none => exact Nat.le_trans ih (Nat.le_add_left _ _)
      | some body =>
          obtain rfl := body?_eq_some_iff.mp hbody
          simp only [Term.tuple.sizeOf_spec, List.cons.sizeOf_spec]
          omega

theorem sizeOf_keyword_lt (info nameNode options : Term) :
    sizeOf (options.keyword "do") <
      sizeOf (Term.tuple [.text "defmodule", info, .list [nameNode, options]]) := by
  have hle : sizeOf (options.keyword "do") ≤ sizeOf options + 1 := by
    cases options with
    | list entries =>
        have hlookup := sizeOf_lookup_le entries
        rw [Term.keyword, Term.list.sizeOf_spec]
        omega
    | _ => simp [Term.keyword]
  simp only [Term.tuple.sizeOf_spec, Term.list.sizeOf_spec, List.cons.sizeOf_spec]
  omega

theorem sizeOf_of_mem_statements {tree statement : Term}
    (hmem : statement ∈ Normal.statements tree) :
    sizeOf statement < sizeOf tree ∨
      statement = tree ∧ (tree.hasForm "__block__" = true → tree.lacksStatements = true) := by
  rcases statements_eq tree with ⟨_, hitems⟩ | ⟨info, items, rfl, hitems⟩ | ⟨hblock, hitems⟩
  · rw [hitems] at hmem
    contradiction
  · rw [hitems] at hmem
    have hlt := List.sizeOf_lt_of_mem hmem
    simp only [Term.tuple.sizeOf_spec, Term.list.sizeOf_spec, List.cons.sizeOf_spec]
    exact .inl (by omega)
  · rw [hitems] at hmem
    exact .inr ⟨List.mem_singleton.mp hmem, hblock⟩

/-- A search that may go deeper than the tree is large is never cut off, except inside a block
without statements. -/
theorem search_of_sizeOf_lt {depth : Nat} {parent : Option Text} {tree : Term}
    (hdepth : sizeOf tree < depth) : search depth parent tree = ofTree parent tree := by
  induction depth generalizing parent tree with
  | zero => omega
  | succ depth ih =>
      by_cases hlacks : tree.lacksStatements = true
      · rw [search_of_lacksStatements _ _ hlacks, ofTree_of_lacksStatements parent hlacks]
      · have hlook : ∀ statement ∈ Normal.statements tree,
            look (search depth) parent statement = look ofTree parent statement := by
          intro statement hmem
          rcases shapes parent statement with
            ⟨info, statements, rfl⟩ | hinner | ⟨info, nameNode, options, name, rfl, hname⟩ |
              ⟨hblock, hmodule⟩
          · rcases sizeOf_of_mem_statements hmem with hlt | ⟨rfl, hblock⟩
            · exact ih (by omega)
            · exact (hlacks (hblock rfl)).elim
          · have hblock := hasForm_of_lacksStatements hinner
            rw [look_block _ parent hblock, look_block _ parent hblock,
              search_of_lacksStatements depth parent hinner, ofTree_of_lacksStatements parent hinner]
          · have hbody := sizeOf_keyword_lt info nameNode options
            have hle := sizeOf_of_mem_statements hmem
            rw [look_module _ parent info options hname, look_module _ parent info options hname,
              ih (by grind)]
          · rw [look_of_nothing _ parent hblock hmodule, look_of_nothing _ parent hblock hmodule]
        rw [← round_ofTree, search, round, round, List.map_congr_left hlook]

end Depth

/-- The modules of a tree that stand before the first block without statements, in order: those
defined at the places that the search comes to and that stand before every such block. -/
def Precede (parent : Option Text) (tree : Term) (modules : List (Text × Term)) : Prop :=
  ∃ places : List Visit,
    places.Pairwise (fun first second => first.position < second.position) ∧
      (∀ visit, visit ∈ places ↔
        Visited parent tree visit ∧ (∃ definition, visit.Defines definition) ∧
          ∀ block, Visited parent tree block → block.part.lacksStatements = true →
            visit.position < block.position) ∧
      List.Forall₂ Visit.Defines places modules

theorem forall₂_filterMap (places : List Visit) :
    List.Forall₂ Visit.Defines (places.filter fun visit => visit.definition?.isSome)
      (places.filterMap Visit.definition?) := by
  induction places with
  | nil => exact .nil
  | cons visit rest ih =>
      cases hdefinition : visit.definition? with
      | none => simpa [hdefinition] using ih
      | some definition =>
          rw [List.filter_cons_of_pos (by simp [hdefinition]),
            List.filterMap_cons_some hdefinition]
          exact .cons (Visit.definition?_eq_some_iff.mp hdefinition) ih

theorem precede_modules (parent : Option Text) (tree : Term) :
    Precede parent tree (ofTree parent tree).modules := by
  refine ⟨(reached parent tree).filter fun visit => visit.definition?.isSome, ?_, ?_, ?_⟩
  · apply List.Pairwise.filter
    exact (pairwise_visits parent tree).sublist (List.takeWhile_sublist _)
  · intro visit
    simp only [List.mem_filter, mem_reached_iff, Option.isSome_iff_exists,
      Visit.definition?_eq_some_iff]
    tauto
  · rw [ofTree_eq_reached]
    exact forall₂_filterMap _

/-- With enough depth the search finds just the modules before the first block without statements.
If there is no such block it comes to an end with them; otherwise no depth is enough for it to end. -/
theorem search_ends_or_recurses (parent : Option Text) (tree : Term) :
    ∃ modules enough, Precede parent tree modules ∧
      (∀ depth, enough ≤ depth → (search depth parent tree).modules = modules) ∧
      ((∀ visit, Visited parent tree visit → visit.part.lacksStatements = false) →
        tree.modules parent = .ok modules ∧
          ∀ depth, enough ≤ depth → (search depth parent tree).endless = false) ∧
      ((∃ visit, Visited parent tree visit ∧ visit.part.lacksStatements = true) →
        tree.modules parent = .error {} ∧
          ∀ depth, (search depth parent tree).endless = true) := by
  have hsearch {depth : Nat} (hdepth : sizeOf tree + 1 ≤ depth) :
      search depth parent tree = ofTree parent tree := search_of_sizeOf_lt hdepth
  refine ⟨(ofTree parent tree).modules, sizeOf tree + 1, precede_modules parent tree, ?_, ?_, ?_⟩
  · intro depth hdepth
    rw [hsearch hdepth]
  · intro hnone
    have hends : (ofTree parent tree).endless = false := by
      rw [Bool.eq_false_iff]
      intro hendless
      obtain ⟨visit, hvisit, hlacks⟩ := endless_ofTree_iff.mp hendless
      rw [hnone visit hvisit] at hlacks
      contradiction
    constructor
    · simp [Term.modules, hends]
    · intro depth hdepth
      rw [hsearch hdepth, hends]
  · intro hsome
    have hendless := endless_ofTree_iff.mpr hsome
    constructor
    · simp [Term.modules, hendless]
    · intro depth
      by_contra hnot
      have hends := Bool.eq_false_iff.mpr hnot
      rw [search_of_ends hends, hendless] at hends
      contradiction

end CallAtlas.Listing
