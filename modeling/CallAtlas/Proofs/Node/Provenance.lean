import CallAtlas.Module.Normal
import CallAtlas.Proofs.Module.Naming
import CallAtlas.Proofs.Node.Closed
import CallAtlas.Proofs.Node.Desugar
import CallAtlas.Proofs.Table

/-!
What the calls of a module take from its definition.  The name of a call stands in the tree; its
module is what a receiver in the tree stands for; its arity counts arguments or is one with which
the tree captures a function.  So where no name in the tree is empty, no call has an empty name, and
a call to a module with an empty name is one on the atom `Elixir.`, which names no module.
-/

namespace CallAtlas

/-- What a call takes from the tree it stands in.  A captured arity is one more if a value is piped
in. -/
structure Call.ComesFrom (tree : Term) (scope : Scope) (call : Call) : Prop where
  name_mem : call.name ∈ tree.names
  module_eq : call.module = none ∨
    ∃ target, tree.Supplies target ∧ call.module = scope.resolve target
  arity_eq : 0 ≤ call.arity ∨
    ∃ arity ∈ tree.capturedArities, call.arity = arity ∨ call.arity = arity + 1

namespace Node

/-- All calls that a node can make, in whatever scope, come from the tree. -/
def CallsFrom (tree : Term) (node : Node) : Prop :=
  ∀ scope piped, ∀ call ∈ node.calls scope piped, call.ComesFrom tree scope

theorem withPiped_eq (arity : Int) (piped : Bool) :
    withPiped arity piped = arity ∨ withPiped arity piped = arity + 1 := by
  cases piped
  · exact .inl rfl
  · exact .inr rfl

theorem withPiped_nonneg (count : Nat) (piped : Bool) : 0 ≤ withPiped count piped := by
  rcases withPiped_eq count piped with h | h <;> omega

theorem mem_calls_qualified {scope : Scope} {piped : Bool} {target : Target} {name : Text}
    {arity : Int} {args : List Node} {receiver : Option Node} {position : Option Position}
    {call : Call} :
    call ∈ calls scope piped (.qualified target name arity args receiver position) ↔
      call = qualifiedCall scope target name (withPiped arity piped) position ∨
        (∃ node, receiver = some node ∧ call ∈ calls scope false node) ∨
        call ∈ callsAll scope args := by
  cases receiver <;> simp [calls]

theorem mem_calls_withChain {scope : Scope} {piped : Bool} {clauses : List Node} {body : Node}
    {otherwise : Option Node} {call : Call} :
    call ∈ calls scope piped (.withChain clauses body otherwise) ↔
      call ∈ callsAll scope clauses ∨ call ∈ calls scope false body ∨
        ∃ node, otherwise = some node ∧ call ∈ calls scope false node := by
  cases otherwise <;> simp [calls]

section CallsFrom

variable {tree : Term}

theorem comesFrom_of_mem_callsAll {nodes : List Node} (h : ∀ node ∈ nodes, CallsFrom tree node)
    {scope : Scope} {call : Call} (hcall : call ∈ callsAll scope nodes) :
    call.ComesFrom tree scope := by
  rw [callsAll_eq_flatMap] at hcall
  obtain ⟨node, hnode, hcall⟩ := List.mem_flatMap.mp hcall
  exact h node hnode scope false call hcall

/-- A captured function has its name and its receiver as before, and the captured arity. -/
theorem callsFrom_captured {info : Term} {arity : Int} (harity : arity ∈ tree.capturedArities)
    {node callee : Node} (hnode : CallsFrom tree node)
    (hcallee : captured info arity node = some callee) : CallsFrom tree callee := by
  intro scope piped call hcall
  have hpiped : ∃ captured ∈ tree.capturedArities,
      withPiped arity piped = captured ∨ withPiped arity piped = captured + 1 :=
    ⟨arity, harity, withPiped_eq arity piped⟩
  unfold captured at hcallee
  split at hcallee
  · obtain rfl := Option.some.inj hcallee
    rcases mem_calls_qualified.mp hcall with rfl | hinner
    · have hown := hnode scope piped _ (mem_calls_qualified.mpr (.inl rfl))
      exact ⟨hown.name_mem, hown.module_eq, .inr hpiped⟩
    · exact hnode scope piped call (mem_calls_qualified.mpr (.inr hinner))
  · obtain rfl := Option.some.inj hcallee
    -- a bare name makes a call only if a value is piped into it
    have hown := hnode scope true _ List.mem_cons_self
    obtain rfl := List.mem_singleton.mp hcall
    exact ⟨hown.name_mem, .inl rfl, .inr hpiped⟩
  · contradiction

theorem closed_callsFrom (tree : Term) : Closed tree (CallsFrom tree) where
  leaf name position hname := by
    intro scope piped call hcall
    cases name with
    | none => simp [calls] at hcall
    | some name =>
        cases piped with
        | false => simp [calls] at hcall
        | true =>
            obtain rfl := List.mem_singleton.mp hcall
            exact ⟨hname name rfl, .inl rfl, .inl Int.one_nonneg⟩
  qualified target name args receiver position htarget hname hargs hreceiver := by
    intro scope piped call hcall
    rcases mem_calls_qualified.mp hcall with rfl | ⟨node, hnode, hcall⟩ | hcall
    · exact ⟨hname, .inr ⟨target, htarget, rfl⟩, .inl (withPiped_nonneg _ _)⟩
    · exact hreceiver node hnode scope false call hcall
    · exact comesFrom_of_mem_callsAll hargs hcall
  unqualified name args position hname hargs := by
    intro scope piped call hcall
    rw [calls, List.mem_cons] at hcall
    rcases hcall with rfl | hcall
    · exact ⟨hname, .inl rfl, .inl (withPiped_nonneg _ _)⟩
    · exact comesFrom_of_mem_callsAll hargs hcall
  captured info arity node callee harity hnode hcallee := callsFrom_captured harity hnode hcallee
  pipeline left right hleft hright := by
    intro scope piped call hcall
    rw [calls, List.mem_append] at hcall
    rcases hcall with hcall | hcall
    · exact hleft scope false call hcall
    · exact hright scope true call hcall
  withChain clauses body otherwise hclauses hbody hotherwise := by
    intro scope piped call hcall
    rcases mem_calls_withChain.mp hcall with hcall | hcall | ⟨node, hnode, hcall⟩
    · exact comesFrom_of_mem_callsAll hclauses hcall
    · exact hbody scope false call hcall
    · exact hotherwise node hnode scope false call hcall
  grouping nodes hnodes := fun _ _ _ hcall => comesFrom_of_mem_callsAll hnodes hcall
  sequence nodes hnodes := fun _ _ _ hcall => comesFrom_of_mem_callsAll hnodes hcall
  block nodes hnodes := fun _ _ _ hcall => comesFrom_of_mem_callsAll hnodes hcall

end CallsFrom

end Node

namespace Normal

section Calls

variable {tree : Term} {scope : Scope} {call : Call}

theorem comesFrom_of_mem_callsOf {term : Term} (hterm : term ∈ tree.parts)
    (hcall : call ∈ callsOf scope term) : call.ComesFrom tree scope :=
  (Node.closed_callsFrom tree).of_classify hterm scope false call hcall

theorem mem_parts_of_mem_bodies {entries : List Term}
    (hentries : ∀ entry ∈ entries, entry ∈ tree.parts) {body : Term} (hbody : body ∈ bodies entries) :
    body ∈ tree.parts := by
  fun_induction bodies entries with
  | case1 => contradiction
  | case2 key first rest ih =>
      obtain ⟨hentry, hrest⟩ := List.forall_mem_cons.mp hentries
      rcases List.mem_cons.mp hbody with rfl | hbody
      · exact Term.mem_parts_trans (Term.item_mem_parts (by simp [Term.items])) hentry
      · exact ih hrest hbody
  | case3 entry rest _ ih => exact ih (List.forall_mem_cons.mp hentries).2 hbody

theorem mem_parts_of_splitGuard (head : Term) :
    (splitGuard head).2 = .null ∨ (splitGuard head).2 ∈ head.parts := by
  unfold splitGuard
  split
  · split
    · exact .inr (Term.arg_mem_parts (by simp))
    · exact .inl rfl
  · exact .inl rfl

theorem mem_parts_of_definitionOf {isPrivate : Bool} {info head : Term} (hhead : head ∈ tree.parts)
    {entries : List Term} (hentries : ∀ entry ∈ entries, entry ∈ tree.parts)
    {definition : Definition}
    (hdefinition : definitionOf isPrivate info head entries = some definition)
    {term : Term} (hterm : term ∈ definition.searched) : term ∈ tree.parts := by
  have hguard := mem_parts_of_splitGuard head
  unfold definitionOf at hdefinition
  simp only at hdefinition
  split at hdefinition
  · split at hdefinition
    · contradiction
    · obtain rfl := Option.some.inj hdefinition
      rcases List.mem_append.mp hterm with hterm | hterm
      · rcases hguard with hnull | hguard
        · simp [hnull, Term.isNull] at hterm
        · split at hterm
          · contradiction
          · rw [List.mem_singleton.mp hterm]
            exact Term.mem_parts_trans hguard hhead
      · exact mem_parts_of_mem_bodies hentries hterm
  · contradiction

/-- What is searched of a statement is part of it. -/
theorem mem_parts_of_definition? {statement : Term} (hstatement : statement ∈ tree.parts)
    {definition : Definition} (hdefinition : definition? statement = some definition)
    {term : Term} (hterm : term ∈ definition.searched) : term ∈ tree.parts := by
  unfold definition? at hdefinition
  split at hdefinition
  · rename_i form info head entries
    have hhead : head ∈ tree.parts :=
      Term.mem_parts_trans (Term.arg_mem_parts (by simp)) hstatement
    have hlist : .list entries ∈ tree.parts :=
      Term.mem_parts_trans (Term.arg_mem_parts (by simp)) hstatement
    have hentries : ∀ entry ∈ entries, entry ∈ tree.parts := by
      intro entry hentry
      exact Term.mem_parts_trans (Term.item_mem_parts hentry) hlist
    split at hdefinition
    · exact mem_parts_of_definitionOf hhead hentries hdefinition hterm
    · split at hdefinition
      · exact mem_parts_of_definitionOf hhead hentries hdefinition hterm
      · contradiction
  · contradiction

theorem comesFrom_of_clause? {statement : Term} (hstatement : statement ∈ tree.parts)
    {clause : Clause} (hclause : clause? scope statement = some clause)
    (hcall : call ∈ clause.calls) : call.ComesFrom tree scope := by
  obtain ⟨definition, hdefinition, rfl⟩ := Option.map_eq_some_iff.mp hclause
  obtain ⟨term, hterm, hcall⟩ := List.mem_flatMap.mp hcall
  exact comesFrom_of_mem_callsOf (mem_parts_of_definition? hstatement hdefinition hterm) hcall

end Calls

theorem mem_parts_of_mem_statements {body statement : Term} (h : statement ∈ statements body) :
    statement ∈ body.parts := by
  unfold statements at h
  split at h
  · contradiction
  · split at h
    · exact Term.arg_mem_parts h
    · rw [List.mem_singleton.mp h]
      exact Term.self_mem_parts _
  · rw [List.mem_singleton.mp h]
    exact Term.self_mem_parts _

theorem lookup_eq_null_or_mem_parts (key : Text) (entries : List Term) :
    Term.keyword.lookup key entries = .null ∨
      ∃ entry ∈ entries, Term.keyword.lookup key entries ∈ entry.parts := by
  fun_induction Term.keyword.lookup key entries with
  | case1 => exact .inl rfl
  | case2 value rest =>
      exact .inr ⟨_, List.mem_cons_self, Term.item_mem_parts (by simp [Term.items])⟩
  | case3 name value rest hname ih =>
      rcases ih with hnull | ⟨entry, hentry, hvalue⟩
      · exact .inl hnull
      · exact .inr ⟨entry, List.mem_cons_of_mem _ hentry, hvalue⟩
  | case4 entry rest hentry ih =>
      rcases ih with hnull | ⟨entry, hentry, hvalue⟩
      · exact .inl hnull
      · exact .inr ⟨entry, List.mem_cons_of_mem _ hentry, hvalue⟩

section Header

variable [Depths] {tree : Term} {module : Option Text} {head : Header}
  (hhead : header tree module = .ok head)
include hhead

theorem exists_of_header : ∃ info nameNode entries,
    tree = .tuple [.text "defmodule", info, .list [nameNode, .list entries]] ∧
      head.body = Term.keyword.lookup "do" entries ∧
      (module.getD "" ≠ "" → head.name = module.getD "") := by
  unfold header at hhead
  split at hhead
  · split at hhead
    · contradiction
    · rename_i hform
      split at hhead
      · contradiction
      · simp only at hhead
        split at hhead
        · split at hhead
          · obtain rfl := Except.ok.inj hhead
            refine ⟨_, _, _, by rw [not_not.mp hform], rfl, ?_⟩
            intro hmodule
            exact if_neg (by simpa [Text.isEmpty] using hmodule)
          · contradiction
        · contradiction
  · contradiction

/-- What is read of a definition is in its tree. -/
theorem statements_mem_parts {statement : Term} (hstatement : statement ∈ statements head.body) :
    statement ∈ tree.parts := by
  obtain ⟨info, nameNode, entries, rfl, hbody, _⟩ := exists_of_header hhead
  rw [hbody] at hstatement
  rcases lookup_eq_null_or_mem_parts "do" entries with hnull | ⟨entry, hentry, hvalue⟩
  · rw [hnull] at hstatement
    contradiction
  · have hentries : .list entries ∈
        (Term.tuple [.text "defmodule", info, .list [nameNode, .list entries]]).parts :=
      Term.arg_mem_parts (by simp)
    have hpart : entry ∈
        (Term.tuple [.text "defmodule", info, .list [nameNode, .list entries]]).parts :=
      Term.mem_parts_trans (Term.item_mem_parts hentry) hentries
    exact Term.mem_parts_trans (mem_parts_of_mem_statements hstatement)
      (Term.mem_parts_trans hvalue hpart)

end Header

/-- Every call of a normalized module comes from its tree. -/
theorem comesFrom_of_ofTree [Depths] {tree : Term} {module : Option Text} {normal : Normal}
    (h : ofTree tree module = .ok normal) :
    ∃ head, header tree module = .ok head ∧
      ∀ clause ∈ normal.block.clauses, ∀ call ∈ clause.calls, call.ComesFrom tree head.scope := by
  obtain ⟨head, hhead, hclauses⟩ := exists_header_of_ofTree h
  refine ⟨head, hhead, ?_⟩
  intro clause hclause call hcall
  rw [hclauses] at hclause
  obtain ⟨statement, hstatement, hclause⟩ := List.mem_filterMap.mp hclause
  exact comesFrom_of_clause? (statements_mem_parts hhead hstatement) hclause hcall

end Normal

theorem Dotted.join_append_ne_empty (front : List Text) {own : List Text} (hnil : own ≠ [])
    (hown : join own ≠ "") : join (front ++ own) ≠ "" := by
  intro hjoin
  rcases front with _ | ⟨first, rest⟩
  · exact hown hjoin
  · exact hnil (List.append_eq_nil_iff.mp (eq_nil_of_join_eq_empty hjoin)).2

namespace Alias

theorem unwrap_mem_parts (term : Term) : unwrap term ∈ term.parts := by
  unfold unwrap
  split
  · split
    · exact Term.arg_mem_parts (by simp)
    · exact Term.self_mem_parts _
  · exact Term.self_mem_parts _

section Named

variable {tree : Term} (hnamed : tree.IsNamed)
include hnamed

theorem join_parts_ne_empty {node : Term} (hnode : node ∈ tree.parts) {current : Option Text}
    (hcurrent : current ≠ some (Text.plain "")) {own : List Text}
    (hown : parts current node = some own) : Dotted.join own ≠ "" := by
  rcases parts_eq_some_iff.mp hown with ⟨hnil, info, rfl⟩ | ⟨name, rest, rfl, rfl, _⟩
  · apply Dotted.join_ne_empty hnil
    intro hempty
    exact hnamed (Term.segment_mem_names hnode (List.mem_map_of_mem hempty))
  · -- the segments of the current module may all be empty, as in ".", but its name is not
    intro hjoin
    rw [Dotted.join_segments_append] at hjoin
    obtain rfl := Dotted.eq_nil_of_join_eq_empty hjoin
    exact hcurrent (congrArg some hjoin)

theorem ofGroup_ne_empty {group : Term} (hgroup : group ∈ tree.parts) {current : Option Text}
    {entry : Text × Text} (hentry : entry ∈ ofGroup current group) : entry.2 ≠ "" := by
  unfold ofGroup at hentry
  split at hentry
  · split at hentry
    · split at hentry
      · rename_i front _
        obtain ⟨item, hitem, hgrouped⟩ := List.mem_filterMap.mp hentry
        obtain ⟨own, hown, hgrouped⟩ := Option.bind_eq_some_iff.mp hgrouped
        obtain ⟨name, _, hentry⟩ := Option.bind_eq_some_iff.mp hgrouped
        obtain rfl := Option.some.inj hentry
        have hmem : item ∈ tree.parts := Term.mem_parts_trans (Term.arg_mem_parts hitem) hgroup
        exact Dotted.join_append_ne_empty front (Term.supplies_alias hmem hown).1
          (join_parts_ne_empty hnamed hmem (by simp) hown)
      · contradiction
    · contradiction
  · contradiction

theorem introduced_ne_empty {statement : Term} (hstatement : statement ∈ tree.parts)
    {current : Option Text} (hcurrent : current ≠ some (Text.plain "")) {entry : Text × Text}
    (hentry : entry ∈ introduced current statement) : entry.2 ≠ "" := by
  unfold introduced at hentry
  split at hentry
  · rename_i form info first rest
    have htarget : unwrap first ∈ tree.parts :=
      Term.mem_parts_trans (unwrap_mem_parts first)
        (Term.mem_parts_trans (Term.arg_mem_parts List.mem_cons_self) hstatement)
    split at hentry
    · contradiction
    · simp only at hentry
      split at hentry
      · rename_i own hown
        split at hentry
        · rw [List.mem_singleton.mp hentry]
          exact join_parts_ne_empty hnamed htarget hcurrent hown
        · contradiction
      · exact ofGroup_ne_empty hnamed htarget hentry
  · contradiction

/-- No alias of a named tree stands for a module without a name. -/
theorem collect_ne_empty {statements : List Term}
    (hstatements : ∀ statement ∈ statements, statement ∈ tree.parts) {current : Option Text}
    (hcurrent : current ≠ some (Text.plain "")) {name module : Text}
    (h : (collect current statements).get? name = some module) : module ≠ "" := by
  obtain ⟨statement, hstatement, hentry⟩ := List.mem_flatMap.mp (Table.mem_of_get?_ofList h)
  exact introduced_ne_empty hnamed (hstatements statement hstatement) hcurrent hentry

end Named

end Alias

theorem Text.length_points (text : Text) : text.points.length = text.length := by
  induction text with
  | plain chars => simp [points, length, String.length_toList]
  | broken chars half rest ih =>
      simp [points, length, ih, String.length_toList, Nat.add_assoc, Nat.add_comm 1]

/-- Nothing follows only the whole text. -/
theorem Text.eq_of_after?_eq_empty {text front : Text}
    (h : text.after? front = some (Text.plain "")) : text = front := by
  unfold after? at h
  split at h
  · rename_i hfront
    have hrest := congrArg Text.points (Option.some.inj h)
    rw [points_ofPoints, ← length_points] at hrest
    obtain ⟨rest, hpoints⟩ := List.isPrefixOf_iff_prefix.mp hfront
    rw [← hpoints, List.drop_left] at hrest
    apply points_injective
    rw [← hpoints, hrest]
    simp [points]
  · contradiction

/-- Where the names are not empty, only a call on the atom `Elixir.` has an empty module. -/
theorem Scope.mem_selectedAtoms_of_resolve {tree : Term} (hnamed : tree.IsNamed) {scope : Scope}
    (hmodule : scope.module ≠ "")
    (haliases : ∀ name module, scope.aliases.get? name = some module → module ≠ "")
    {target : Target} (htarget : tree.Supplies target)
    (h : scope.resolve target = some (Text.plain "")) :
    Text.plain "Elixir." ∈ tree.selectedAtoms := by
  unfold resolve at h
  split at h
  · rename_i segment
    have hsegment := Option.some.inj h
    cases halias : scope.aliases.get? segment with
    | none =>
        rw [halias, Option.getD_none] at hsegment
        exact absurd (htarget.2 (List.mem_singleton.mpr hsegment.symm)) hnamed
    | some module =>
        rw [halias, Option.getD_some] at hsegment
        exact absurd hsegment (haliases segment module halias)
  · have hproper := fun hempty => hnamed (htarget.2 hempty)
    exact absurd (Option.some.inj h) (Dotted.join_ne_empty htarget.1 hproper)
  · split at h
    · rename_i name module hname
      obtain rfl := Option.some.inj h
      rwa [← Text.eq_of_after?_eq_empty hname]
    · have hpoints := congrArg Text.points (Option.some.inj h)
      simp [Text.points] at hpoints
  · have hjoin := Option.some.inj h
    obtain rfl := Dotted.eq_nil_of_join_eq_empty hjoin
    exact absurd hjoin hmodule
  · contradiction
  · contradiction

/-- The calls of a named definition, normalized under a name. -/
theorem Normal.call_of_named [Depths] {tree : Term} (hnamed : tree.IsNamed) {module : Text}
    {normal : Normal} (h : ofTree tree (some module) = .ok normal) {clause : Clause}
    (hclause : clause ∈ normal.block.clauses) {call : Call} (hcall : call ∈ clause.calls) :
    call.name ≠ "" ∧
      (module ≠ "" → call.module = some (Text.plain "") →
        Text.plain "Elixir." ∈ tree.selectedAtoms) := by
  obtain ⟨head, hhead, hcalls⟩ := comesFrom_of_ofTree h
  have hcomes := hcalls clause hclause call hcall
  constructor
  · intro hempty
    exact hnamed (hempty ▸ hcomes.name_mem)
  · intro hmodule hempty
    obtain ⟨_, _, _, _, _, hname⟩ := exists_of_header hhead
    have hhome : head.scope.module ≠ "" := by
      change head.name ≠ ""
      rwa [hname hmodule]
    rcases hcomes.module_eq with hnone | ⟨target, htarget, hresolve⟩
    · rw [hnone] at hempty
      contradiction
    · refine Scope.mem_selectedAtoms_of_resolve hnamed hhome ?_ htarget (hresolve.symm.trans hempty)
      intro name aliased haliased
      refine Alias.collect_ne_empty hnamed (fun _ => statements_mem_parts hhead) ?_ haliased
      intro heq
      exact hhome (Option.some.inj heq)

end CallAtlas
