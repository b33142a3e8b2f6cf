import CallAtlas.Proofs.Reformat.Calls

/-!
The block of a module up to metadata.  Header, statements, clauses and attributes of a definition
are read off its bare tree, so that definitions which differ in metadata only have blocks that differ in
positions and attribute values only.
-/

namespace CallAtlas

/-- A clause without positions. -/
def Clause.bare (clause : Clause) : Clause :=
  { clause with calls := clause.calls.map Call.bare, position := none }

theorem Clause.bare_comp_bare : Clause.bare ∘ Clause.bare = Clause.bare := by
  funext clause
  simp [Clause.bare, Call.bare]

/-- An attribute without its value. -/
def Attribute.bare (entry : Attribute) : Attribute := { entry with value := .null }

/-- A block without positions and attribute values. -/
def Block.bare (block : Block) : Block :=
  { block with
    clauses := block.clauses.map Clause.bare
    attributes := block.attributes.map Attribute.bare
    position := none }

namespace Normal

open Term

theorem statements_bare (body : Term) : statements body.bare = (statements body).map bare := by
  induction body using tripleCases with
  | triple head info args =>
      cases head with
      | text form =>
          cases args with
          | list items =>
              simp only [bare_triple, bare_text, bare_list, statements]
              split <;> simp
          | _ => rfl
      | _ => simp [statements]
  | _ => simp [statements]

mutual
@[simp] theorem holdsList_bare (term : Term) : holdsList term.bare = holdsList term := by
  match term with
  | .null | .bool _ | .int _ | .decimal _ | .text _ => rfl
  | .list items => simp [holdsList]
  | .tuple [] => rfl
  | .tuple [item] => simp [holdsList, anyHoldsList, holdsList_bare item]
  | .tuple [first, second] =>
      simp [holdsList, anyHoldsList, holdsList_bare first, holdsList_bare second]
  | .tuple [head, info, args] =>
      have hinfo : holdsList (bareInfo info) = holdsList info := by
        have hbare := holdsList_bare info
        cases info with
        | list entries => rfl
        | _ => exact hbare
      simp [holdsList, anyHoldsList, holdsList_bare head, hinfo, holdsList_bare args]
  | .tuple (first :: second :: third :: fourth :: rest) =>
      simp [holdsList, anyHoldsList, holdsList_bare first, holdsList_bare second,
        holdsList_bare third, holdsList_bare fourth, anyHoldsList_bare rest]

theorem anyHoldsList_bare (items : List Term) :
    anyHoldsList (items.map bare) = anyHoldsList items := by
  match items with
  | [] => rfl
  | item :: rest => simp [anyHoldsList, holdsList_bare item, anyHoldsList_bare rest]
end

@[simp] theorem hasListForm_bare (statement : Term) :
    hasListForm statement.bare = hasListForm statement := by
  induction statement using tripleCases with
  | triple head info args => simp [hasListForm]
  | _ => simp [hasListForm]

theorem withoutDefault_bare (param : Term) :
    withoutDefault param.bare = ((withoutDefault param).1.bare, (withoutDefault param).2) := by
  induction param using tripleCases with
  | triple head info args =>
      cases head with
      | text form =>
          cases args with
          | list items =>
              cases items with
              | nil => rfl
              | cons first rest =>
                  simp only [bare_triple, bare_text, bare_list, List.map_cons, withoutDefault]
                  split <;> simp
          | _ => rfl
      | _ => simp [withoutDefault]
  | _ => simp [withoutDefault]

theorem paramName_bare (index : Nat) (param : Term) :
    paramName index param.bare = paramName index param := by
  induction param using tripleCases with
  | triple head info args =>
      cases head with
      | text name => cases args <;> simp [paramName]
      | _ => simp [paramName]
  | _ => simp [paramName]

theorem paramNames_bare (index : Nat) (params : List Term) :
    paramNames index (params.map bare) = paramNames index params := by
  induction params generalizing index with
  | nil => rfl
  | cons param rest ih =>
      rw [List.map_cons, paramNames, paramNames, withoutDefault_bare, paramName_bare, ih]

theorem defaultCount_bare (params : List Term) :
    defaultCount (params.map bare) = defaultCount params := by
  rw [defaultCount, List.countP_map, defaultCount]
  congr 1
  funext param
  rw [Function.comp_apply, withoutDefault_bare]

theorem splitGuard_bare (head : Term) :
    splitGuard head.bare = ((splitGuard head).1.bare, (splitGuard head).2.bare) := by
  induction head using tripleCases with
  | triple form info args =>
      cases form with
      | text form =>
          cases args with
          | list items =>
              match items with
              | [head, guarded] =>
                  simp only [bare_triple, bare_text, bare_list, List.map_cons, List.map_nil,
                    splitGuard]
                  split <;> simp
              | [] | [_] | _ :: _ :: _ :: _ => simp [splitGuard]
          | _ => simp [splitGuard]
      | _ => simp [splitGuard]
  | _ => simp [splitGuard]

theorem callsOf_bare (scope : Scope) (term : Term) :
    callsOf scope term.bare = (callsOf scope term).map Call.bare := by
  rw [callsOf, Node.classify_bare, Node.calls_bare, callsOf]

theorem bodies_bare (entries : List Term) :
    bodies (entries.map bare) = (bodies entries).map bare := by
  induction entries with
  | nil => rfl
  | cons entry rest ih =>
      induction entry using tripleCases with
      | pair key body => simp [bodies, ih]
      | _ => simpa [bodies] using ih

/-- A definition up to metadata. -/
def Definition.bare (definition : Definition) : Definition :=
  { definition with
    params := definition.params.map Term.bare
    searched := definition.searched.map Term.bare
    info := bareInfo definition.info }

theorem definitionOf_bare (isPrivate : Bool) (info head : Term) (entries : List Term) :
    definitionOf isPrivate (bareInfo info) head.bare (entries.map bare) =
      (definitionOf isPrivate info head entries).map Definition.bare := by
  unfold definitionOf
  rw [splitGuard_bare]
  obtain ⟨own, guarded⟩ := splitGuard head
  have hguard : (if guarded.bare.isNull then [] else [guarded.bare]) =
      (if guarded.isNull then [] else [guarded]).map bare := by
    rw [isNull_bare]
    split <;> rfl
  induction own using tripleCases with
  | triple form formInfo params =>
      cases form with
      | text name =>
          cases params with
          | list items =>
              simp only [bare_triple, bare_text, bare_list, hguard, bodies_bare]
              split <;> simp [Definition.bare]
          | _ =>
              simp only [bare_triple, bare_text, hguard, bodies_bare]
              split <;> simp [Definition.bare]
      | _ => simp
  | _ => simp

theorem definition?_bare (statement : Term) :
    definition? statement.bare = (definition? statement).map Definition.bare := by
  induction statement using tripleCases with
  | triple form info args =>
      cases form with
      | text form =>
          cases args with
          | list items =>
              match items with
              | [head, .list entries] =>
                  simp only [bare_triple, bare_text, bare_list, List.map_cons, List.map_nil,
                    definition?, definitionOf_bare]
                  split
                  · rfl
                  · split <;> rfl
              | [] | [_] | _ :: _ :: _ :: _ => simp [definition?]
              | [_, .null] | [_, .bool _] | [_, .int _] | [_, .decimal _] | [_, .text _]
              | [_, .tuple _] => simp [definition?]
          | _ => simp [definition?]
      | _ => simp [definition?]
  | _ => simp [definition?]

theorem Definition.clause_bare (scope : Scope) (definition : Definition) :
    definition.bare.clause scope = (definition.clause scope).bare := by
  simp [Definition.bare, clause, Clause.bare, List.flatMap_map, List.map_flatMap, callsOf_bare,
    paramNames_bare, defaultCount_bare, Position.ofMeta_bareInfo]

theorem clause?_bare (scope : Scope) (statement : Term) :
    clause? scope statement.bare = (clause? scope statement).map Clause.bare := by
  rw [clause?, definition?_bare, clause?, Option.map_map, Option.map_map]
  congr 1
  funext definition
  exact definition.clause_bare scope

theorem isTooDeep_bare [Depths] (statement : Term) :
    isTooDeep statement.bare = isTooDeep statement := by
  rw [isTooDeep, definition?_bare, isTooDeep, Option.any_map]
  congr 1
  funext definition
  simp only [Definition.bare, List.any_map]
  congr 1
  funext term
  rw [Function.comp_apply, Node.classify_bare, Node.deeperThan_bare]

theorem statementFault?_bare [Depths] (statement : Term) :
    statementFault? statement.bare = statementFault? statement := by
  rw [statementFault?, hasListForm_bare, isTooDeep_bare, statementFault?]

theorem attribute?_bare_of_key (form key : Text) (info keyInfo values : Term) :
    (attribute? (.tuple [.text form, info, .list [.tuple [.text key, keyInfo, values]]])).map
        Attribute.bare =
      if form = "@" then some ⟨key, .null⟩ else none := by
  simp only [attribute?, ite_not]
  split
  · split <;> rfl
  · rfl

/-- Of an attribute, the key does not depend on metadata. -/
theorem attribute?_bare (statement : Term) :
    (attribute? statement.bare).map Attribute.bare = (attribute? statement).map Attribute.bare := by
  induction statement using tripleCases with
  | triple form info args =>
      cases form with
      | text form =>
          cases args with
          | list items =>
              match items with
              | [entry] =>
                  induction entry using tripleCases with
                  | triple key keyInfo values =>
                      cases key with
                      | text key =>
                          rw [attribute?_bare_of_key]
                          exact attribute?_bare_of_key form key (bareInfo info) (bareInfo keyInfo)
                            values.bare
                      | _ => simp [attribute?]
                  | _ => simp [attribute?]
              | [] | _ :: _ :: _ => simp [attribute?]
          | _ => simp [attribute?]
      | _ => simp [attribute?]
  | _ => simp [attribute?]

theorem isBody_bare (entry : Term) : isBody entry.bare = isBody entry := by
  induction entry using tripleCases with
  | pair key body => cases key <;> simp [isBody]
  | _ => simp [isBody]

/-- What a definition says before its body is read, up to metadata. -/
def Header.bare (header : Header) : Header :=
  ⟨header.name, header.body.bare, bareInfo header.info⟩

theorem header_bare [Depths] (tree : Term) (module : Option Text) :
    (header tree.bare module).toOption = (header tree module).toOption.map Header.bare := by
  induction tree using tripleCases with
  | triple form info args =>
      cases form with
      | text form =>
          cases args with
          | list items =>
              match items with
              | [nameNode, options] =>
                  by_cases hform : form = "defmodule"
                  · cases hparts : Alias.parts module nameNode with
                    | none => simp [header, hform, hparts, Except.toOption]
                    | some segments =>
                        cases options with
                        | list entries =>
                            have hany : (entries.map bare).any isBody = entries.any isBody := by
                              rw [List.any_map]
                              congr 1
                              funext entry
                              exact isBody_bare entry
                            have hbody := keyword_bare "do" (.list entries)
                            rw [bare_list] at hbody
                            cases hdo : entries.any isBody <;>
                              simp [header, hform, hparts, hany, hdo, hbody, Header.bare,
                                Except.toOption, -List.any_map]
                        | _ => simp [header, hform, hparts, Except.toOption]
                  · simp [header, hform, Except.toOption]
              | [] | [_] | _ :: _ :: _ :: _ => simp [header, Except.toOption]
          | _ => simp [header, Except.toOption]
      | _ => simp [header, Except.toOption]
  | _ => simp [header, Except.toOption]

/-- The block of a definition with this header. -/
def ofHeader? [Depths] (header : Header) : Option Block :=
  let items := statements header.body
  let scope : Scope := { module := header.name, aliases := Alias.collect (some header.name) items }
  match items.findSome? statementFault? with
  | some _ => none
  | none => some {
    name := header.name
    clauses := items.filterMap (clause? scope)
    attributes := (items.filter fun item => (definition? item).isNone).filterMap attribute?
    position := Position.ofMeta header.info }

theorem findSome?_statementFault?_bare [Depths] (items : List Term) :
    (items.map bare).findSome? statementFault? = items.findSome? statementFault? := by
  rw [List.findSome?_map]
  congr 1
  funext statement
  exact statementFault?_bare statement

theorem clauses_bare (scope : Scope) (items : List Term) :
    (items.map bare).filterMap (clause? scope) =
      (items.filterMap (clause? scope)).map Clause.bare := by
  rw [List.filterMap_map, List.map_filterMap]
  congr 1
  funext statement
  exact clause?_bare scope statement

theorem attributes_bare (items : List Term) :
    (((items.map bare).filter fun item => (definition? item).isNone).filterMap attribute?).map
        Attribute.bare =
      ((items.filter fun item => (definition? item).isNone).filterMap attribute?).map
        Attribute.bare := by
  rw [List.filter_map, List.filterMap_map, List.map_filterMap, List.map_filterMap]
  congr 1
  · funext statement
    exact attribute?_bare statement
  · congr 1
    funext statement
    rw [Function.comp_apply, definition?_bare, Option.isNone_map]

theorem ofHeader?_bare [Depths] (header : Header) :
    (ofHeader? header.bare).map Block.bare = (ofHeader? header).map Block.bare := by
  obtain ⟨name, body, info⟩ := header
  simp only [ofHeader?, Header.bare, statements_bare, findSome?_statementFault?_bare,
    Alias.collect_bare]
  split
  · rfl
  · simp only [Option.map_some, Block.bare, clauses_bare, attributes_bare, List.map_map,
      Clause.bare_comp_bare]

/-- Definitions that differ in metadata only have the same block, up to positions and attribute
values. -/
theorem ofHeader?_congr [Depths] {tree other : Term} (h : tree.bare = other.bare)
    (module : Option Text) :
    ((header tree module).toOption.bind ofHeader?).map Block.bare =
      ((header other module).toOption.bind ofHeader?).map Block.bare := by
  have hblock (tree : Term) : ((header tree.bare module).toOption.bind ofHeader?).map Block.bare =
      ((header tree module).toOption.bind ofHeader?).map Block.bare := by
    rw [header_bare]
    cases (header tree module).toOption with
    | none => rfl
    | some header => exact ofHeader?_bare header
  rw [← hblock tree, h, hblock other]

theorem block_ofTree [Depths] (tree : Term) (module : Option Text) :
    (ofTree tree module).toOption.map block = (header tree module).toOption.bind ofHeader? := by
  cases hheader : header tree module with
  | error cause => simp [ofTree, hheader, Except.toOption, bind, Except.bind]
  | ok found =>
      cases hfault : (statements found.body).findSome? statementFault? <;>
        simp [ofTree, ofHeader?, hheader, hfault, Except.toOption, bind, Except.bind]

end Normal

end CallAtlas
