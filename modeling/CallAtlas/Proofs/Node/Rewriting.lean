import Mathlib.Data.List.Basic
import CallAtlas.Node.Calls
import CallAtlas.Proofs.Node.Shape

/-!
Rewriting of quoted trees that leaves their syntax alone: metadata may change, and the segments of
alias nodes may.  Classification shows such a rewriting in two places only, in the segments of alias
targets and in positions; so the calls of a rewritten tree are those of the tree, up to what these
two say.

`Rewriting` holds a rewriting together with the laws that this takes.  They are stated for one node
at a time; `classify_tree` lifts them through every form by induction on the size of the tree.
-/

namespace CallAtlas

/-- A target with other segments, if it is an alias. -/
def Target.mapAlias (segments : List Text → List Text) : Target → Target
  | .alias own => .alias (segments own)
  | target => target

/-- A call at another position. -/
def Call.relocate (position : Option Position → Option Position) (call : Call) : Call :=
  { call with position := position call.position }

namespace Node

section Map

variable (segments : List Text → List Text) (position : Option Position → Option Position)

mutual
/-- A node with other alias segments and other positions. -/
def map : Node → Node
  | .leaf name place => .leaf name (position place)
  | .qualified target name arity args receiver place =>
    .qualified (target.mapAlias segments) name arity (mapAll args)
      (match receiver with
        | some receiver => some (map receiver)
        | none => none)
      (position place)
  | .unqualified name arity args place => .unqualified name arity (mapAll args) (position place)
  | .pipeline left right => .pipeline (map left) (map right)
  | .withChain clauses body otherwise =>
    .withChain (mapAll clauses) (map body)
      (match otherwise with
        | some otherwise => some (map otherwise)
        | none => none)
  | .grouping nodes => .grouping (mapAll nodes)
  | .sequence nodes => .sequence (mapAll nodes)
  | .block nodes => .block (mapAll nodes)
  | .foreign kind => .foreign kind

def mapAll : List Node → List Node
  | [] => []
  | node :: rest => map node :: mapAll rest
end

@[simp] theorem mapAll_eq_map (nodes : List Node) :
    mapAll segments position nodes = nodes.map (map segments position) := by
  induction nodes with
  | nil => rfl
  | cons node rest ih => rw [mapAll, ih, List.map_cons]

@[simp] theorem map_leaf (name : Option Text) (place : Option Position) :
    map segments position (.leaf name place) = .leaf name (position place) := rfl

@[simp] theorem map_qualified (target : Target) (name : Text) (arity : Int) (args : List Node)
    (receiver : Option Node) (place : Option Position) :
    map segments position (.qualified target name arity args receiver place) =
      .qualified (target.mapAlias segments) name arity (args.map (map segments position))
        (receiver.map (map segments position)) (position place) := by
  cases receiver <;> simp [map]

@[simp] theorem map_unqualified (name : Text) (arity : Int) (args : List Node)
    (place : Option Position) :
    map segments position (.unqualified name arity args place) =
      .unqualified name arity (args.map (map segments position)) (position place) := by
  simp [map]

@[simp] theorem map_pipeline (left right : Node) :
    map segments position (.pipeline left right) =
      .pipeline (map segments position left) (map segments position right) := rfl

@[simp] theorem map_withChain (clauses : List Node) (body : Node) (otherwise : Option Node) :
    map segments position (.withChain clauses body otherwise) =
      .withChain (clauses.map (map segments position)) (map segments position body)
        (otherwise.map (map segments position)) := by
  cases otherwise <;> simp [map]

@[simp] theorem map_grouping (nodes : List Node) :
    map segments position (.grouping nodes) = .grouping (nodes.map (map segments position)) := by
  simp [map]

@[simp] theorem map_sequence (nodes : List Node) :
    map segments position (.sequence nodes) = .sequence (nodes.map (map segments position)) := by
  simp [map]

@[simp] theorem map_block (nodes : List Node) :
    map segments position (.block nodes) = .block (nodes.map (map segments position)) := by
  simp [map]

variable {segments}

mutual
/-- The calls of a node with other segments and positions, where the other segments mean what the
segments mean. -/
theorem calls_map {scope other : Scope}
    (hresolve : ∀ target : Target, other.resolve (target.mapAlias segments) = scope.resolve target)
    (piped : Bool) (node : Node) :
    calls other piped (map segments position node) =
      (calls scope piped node).map (Call.relocate position) := by
  cases node with
  | leaf name place =>
      cases name with
      | none => rfl
      | some name => cases piped <;> rfl
  | qualified target name arity args receiver place =>
      have hargs := callsAll_map hresolve args
      cases receiver with
      | none => simp [calls, hargs, qualifiedCall, hresolve, Call.relocate]
      | some receiver =>
          have hreceiver := calls_map hresolve false receiver
          simp [calls, hargs, hreceiver, qualifiedCall, hresolve, Call.relocate]
  | unqualified name arity args place => simp [calls, callsAll_map hresolve args, Call.relocate]
  | pipeline left right =>
      simp [calls, calls_map hresolve false left, calls_map hresolve true right]
  | withChain clauses body otherwise =>
      have hclauses := callsAll_map hresolve clauses
      have hbody := calls_map hresolve false body
      cases otherwise with
      | none => simp [calls, hclauses, hbody]
      | some otherwise =>
          have hotherwise := calls_map hresolve false otherwise
          simp [calls, hclauses, hbody, hotherwise]
  | grouping nodes | sequence nodes | block nodes => simp [calls, callsAll_map hresolve nodes]
  | foreign kind => rfl

theorem callsAll_map {scope other : Scope}
    (hresolve : ∀ target : Target, other.resolve (target.mapAlias segments) = scope.resolve target)
    (nodes : List Node) :
    callsAll other (nodes.map (map segments position)) =
      (callsAll scope nodes).map (Call.relocate position) := by
  cases nodes with
  | nil => rfl
  | cons node rest =>
      rw [List.map_cons, callsAll, callsAll, List.map_append, calls_map hresolve false node,
        callsAll_map hresolve rest]
end

mutual
/-- Other segments and positions leave the nesting as it is. -/
theorem deeperThan_map (limit : Nat) (node : Node) :
    (map segments position node).deeperThan limit = node.deeperThan limit := by
  cases limit with
  | zero => cases node <;> simp [deeperThan, map]
  | succ limit =>
      cases node with
      | leaf name place | foreign kind => rfl
      | qualified target name arity args receiver place =>
          have hargs := anyDeeperThan_map limit args
          cases receiver with
          | none => simp [deeperThan, hargs]
          | some receiver => simp [deeperThan, hargs, deeperThan_map limit receiver]
      | pipeline left right =>
          simp [deeperThan, deeperThan_map limit left, deeperThan_map limit right]
      | withChain clauses body otherwise =>
          have hclauses := anyDeeperThan_map limit clauses
          have hbody := deeperThan_map limit body
          cases otherwise with
          | none => simp [deeperThan, hclauses, hbody]
          | some otherwise =>
              simp [deeperThan, hclauses, hbody, deeperThan_map limit otherwise]
      | unqualified name arity nodes place => simp [deeperThan, anyDeeperThan_map limit nodes]
      | grouping nodes | sequence nodes | block nodes =>
          simp [deeperThan, anyDeeperThan_map limit nodes]

theorem anyDeeperThan_map (limit : Nat) (nodes : List Node) :
    anyDeeperThan limit (nodes.map (map segments position)) = anyDeeperThan limit nodes := by
  cases nodes with
  | nil => rfl
  | cons node rest =>
      rw [List.map_cons, anyDeeperThan, anyDeeperThan, deeperThan_map limit node,
        anyDeeperThan_map limit rest]
end

end Map

end Node

open Node

/-- A rewriting of trees: what becomes of a tree, of metadata, of the segments of an alias, and of
positions.  Only the metadata of nodes and the segments of alias nodes may change. -/
structure Rewriting where
  tree : Term → Term
  info : Term → Term
  segments : List Text → List Text
  position : Option Position → Option Position
  tree_scalar : ∀ term, (∀ items, term ≠ .list items) → (∀ items, term ≠ .tuple items) →
    tree term = term
  tree_list : ∀ items, tree (.list items) = .list (items.map tree)
  tree_tuple : ∀ items, items.length ≠ 3 → tree (.tuple items) = .tuple (items.map tree)
  tree_node : ∀ head mark args, (head = .text "__aliases__" → ∀ items, args ≠ .list items) →
    tree (.tuple [head, mark, args]) = .tuple [tree head, info mark, tree args]
  tree_alias : ∀ mark items, ∃ others,
    tree (.tuple [.text "__aliases__", mark, .list items]) =
      .tuple [.text "__aliases__", info mark, .list others]
  parts_tree : ∀ term, Alias.parts none (tree term) = (Alias.parts none term).map segments
  currentSegments_tree : ∀ term, Alias.currentSegments (tree term) = Alias.currentSegments term
  ofMeta_info : ∀ mark, Position.ofMeta (info mark) = position (Position.ofMeta mark)
  ofMeta_unmarked : ∀ mark, Position.ofMeta (withoutNoParens (info mark)) =
    position (Position.ofMeta (withoutNoParens mark))
  noParens_info : ∀ mark, noParens (info mark) = noParens mark
  position_none : position none = none
  position_or : ∀ first second,
    position (Option.or first second) = (position first).or (position second)

namespace Rewriting

variable (r : Rewriting)

/-- What becomes of a node. -/
abbrev node : Node → Node := Node.map r.segments r.position

attribute [simp] tree_list position_none

theorem node_literal : r.node .literal = .literal := by
  rw [literal, node, map_leaf, r.position_none]

@[simp] theorem tree_null : r.tree .null = .null := r.tree_scalar _ (by simp) (by simp)

@[simp] theorem tree_bool (value : Bool) : r.tree (.bool value) = .bool value :=
  r.tree_scalar _ (by simp) (by simp)

@[simp] theorem tree_int (value : Int) : r.tree (.int value) = .int value :=
  r.tree_scalar _ (by simp) (by simp)

@[simp] theorem tree_decimal (value : Decimal) : r.tree (.decimal value) = .decimal value :=
  r.tree_scalar _ (by simp) (by simp)

@[simp] theorem tree_text (value : Text) : r.tree (.text value) = .text value :=
  r.tree_scalar _ (by simp) (by simp)

@[simp] theorem tree_pair (first second : Term) :
    r.tree (.tuple [first, second]) = .tuple [r.tree first, r.tree second] :=
  r.tree_tuple _ (by simp)

/-- A triple stays a triple, under the form it had. -/
theorem exists_tree_triple (head mark args : Term) :
    ∃ others, r.tree (.tuple [head, mark, args]) = .tuple [r.tree head, r.info mark, others] := by
  by_cases halias : head = .text "__aliases__" ∧ ∃ items, args = .list items
  · obtain ⟨rfl, items, rfl⟩ := halias
    obtain ⟨others, hothers⟩ := r.tree_alias mark items
    exact ⟨.list others, by rw [hothers, r.tree_text]⟩
  · refine ⟨r.tree args, r.tree_node head mark args ?_⟩
    intro hhead items hargs
    exact halias ⟨hhead, items, hargs⟩

theorem exists_tree_tuple (items : List Term) :
    ∃ others, r.tree (.tuple items) = .tuple others := by
  by_cases hthree : items.length = 3
  · obtain ⟨head, mark, args, rfl⟩ := List.length_eq_three.mp hthree
    obtain ⟨others, hothers⟩ := r.exists_tree_triple head mark args
    exact ⟨_, hothers⟩
  · exact ⟨_, r.tree_tuple items hthree⟩

theorem tree_ne_text {term : Term} (h : ∀ text, term ≠ .text text) (text : Text) :
    r.tree term ≠ .text text := by
  cases term with
  | text value => exact absurd rfl (h value)
  | tuple items =>
      obtain ⟨others, hothers⟩ := r.exists_tree_tuple items
      simp [hothers]
  | _ => simp

theorem tree_ne_list {term : Term} (h : ∀ items, term ≠ .list items) (items : List Term) :
    r.tree term ≠ .list items := by
  cases term with
  | list own => exact absurd rfl (h own)
  | tuple own =>
      obtain ⟨others, hothers⟩ := r.exists_tree_tuple own
      simp [hothers]
  | _ => simp

theorem tree_ne_entry {term : Term} (h : ∀ name value, term ≠ .tuple [.text name, value])
    (name : Text) (value : Term) : r.tree term ≠ .tuple [.text name, value] := by
  induction term using Term.tripleCases with
  | pair first second =>
      have hfirst : ∀ text, first ≠ .text text := by
        intro text heq
        exact h text second (by rw [heq])
      simp [r.tree_ne_text hfirst]
  | triple head mark args =>
      obtain ⟨others, hothers⟩ := r.exists_tree_triple head mark args
      simp [hothers]
  | unit | single _ | many _ _ _ _ _ =>
      rw [r.tree_tuple _ (by simp)]
      simp
  | _ => simp

theorem isNull_tree (term : Term) : (r.tree term).isNull = term.isNull := by
  cases term with
  | tuple items =>
      obtain ⟨others, hothers⟩ := r.exists_tree_tuple items
      rw [hothers]
      rfl
  | list items =>
      rw [r.tree_list]
      rfl
  | _ => rw [r.tree_scalar _ (by simp) (by simp)]

theorem isTriple_tree (term : Term) : (r.tree term).isTriple = term.isTriple := by
  induction term using Term.tripleCases with
  | triple head mark args =>
      obtain ⟨others, hothers⟩ := r.exists_tree_triple head mark args
      rw [hothers]
      rfl
  | list items =>
      rw [r.tree_list]
      rfl
  | unit | single _ | pair _ _ | many _ _ _ _ _ =>
      rw [r.tree_tuple _ (by simp)]
      simp [Term.isTriple]
  | _ => rw [r.tree_scalar _ (by simp) (by simp)]

/-- The arguments of a node that is no alias are rewritten one by one. -/
theorem formArgs?_tree {form : Text} (hform : form ≠ "__aliases__") (term : Term) :
    formArgs? form (r.tree term) = (formArgs? form term).map (List.map r.tree) := by
  induction term using Term.tripleCases with
  | triple head mark args =>
      by_cases halias : head = .text "__aliases__" ∧ ∃ items, args = .list items
      · -- an alias node stays one, and is of another form before and after
        obtain ⟨rfl, items, rfl⟩ := halias
        obtain ⟨others, hothers⟩ := r.tree_alias mark items
        simp [hothers, formArgs?, hform.symm]
      · rw [r.tree_node head mark args fun hhead items hargs => halias ⟨hhead, items, hargs⟩]
        by_cases hargs : ∃ items, args = .list items
        · obtain ⟨items, rfl⟩ := hargs
          by_cases hhead : ∃ name, head = .text name
          · obtain ⟨name, rfl⟩ := hhead
            simp only [tree_text, tree_list, formArgs?]
            split <;> rfl
          · have hshape : ∀ name, head ≠ .text name := not_exists.mp hhead
            rw [formArgs?_of_ne_text hshape, formArgs?_of_ne_text (r.tree_ne_text hshape)]
            rfl
        · have hshape : ∀ items, args ≠ .list items := not_exists.mp hargs
          rw [formArgs?_of_ne_list hshape, formArgs?_of_ne_list (r.tree_ne_list hshape)]
          rfl
  | unit | single _ | pair _ _ | many _ _ _ _ _ =>
      rw [r.tree_tuple _ (by simp)]
      simp [formArgs?]
  | _ => simp [formArgs?]

/-- What a capture stands for has the position of the captured name, or that of the capture. -/
theorem captured_node (mark : Term) (arity : Int) (node : Node) :
    captured (r.info mark) arity (r.node node) = (captured mark arity node).map r.node := by
  cases node with
  | leaf name place =>
      cases name with
      | none => rfl
      | some name => simp [captured, r.ofMeta_info, r.position_or]
  | qualified target name arity args receiver place => cases args <;> simp [captured]
  | foreign kind => rfl
  | _ => simp [captured]

/-- The rewriting shows in the node of a tree as it should. -/
def Carries (term : Term) : Prop := classify (r.tree term) = r.node (classify term)

variable {r}

theorem classifyAll_tree {items : List Term} (h : Below r.Carries (sizeOf items)) :
    classifyAll (items.map r.tree) = (classifyAll items).map r.node := by
  induction items with
  | nil => rfl
  | cons item rest ih =>
      have hitem : classify (r.tree item) = r.node (classify item) := h.head
      simp only [List.map_cons, classifyAll, hitem, ih h.tail]

theorem classifyLast_tree {items : List Term} (h : Below r.Carries (sizeOf items)) :
    classifyLast (items.map r.tree) = (classifyLast items).map r.node := by
  induction items with
  | nil => rfl
  | cons item rest ih =>
      cases rest with
      | nil => exact congrArg some h.head
      | cons second rest => exact ih h.tail

theorem classifyEntry_tree (key : Text) {entries : List Term}
    (h : Below r.Carries (sizeOf entries)) :
    classifyEntry key (entries.map r.tree) = (classifyEntry key entries).map r.node := by
  induction entries with
  | nil => rfl
  | cons entry rest ih =>
      by_cases hentry : ∃ name value, entry = .tuple [.text name, value]
      · obtain ⟨name, value, rfl⟩ := hentry
        have hvalue : classify (r.tree value) = r.node (classify value) := h.item.tuple.tail.head
        simp only [List.map_cons, tree_pair, tree_text, classifyEntry, r.isNull_tree, hvalue,
          ih h.tail]
        split
        · split <;> rfl
        · rfl
      · have hshape : ∀ name value, entry ≠ .tuple [.text name, value] := by
          intro name value heq
          exact hentry ⟨name, value, heq⟩
        rw [List.map_cons, classifyEntry_cons hshape, classifyEntry_cons (r.tree_ne_entry hshape)]
        exact ih h.tail

theorem guardOperands?_tree (pattern : Term) :
    guardOperands? (r.tree pattern) = (guardOperands? pattern).map (List.map r.tree) := by
  rw [guardOperands?_eq, guardOperands?_eq]
  cases pattern with
  | list items =>
      rw [r.tree_list]
      match items with
      | [item] => exact r.formArgs?_tree (by decide) item
      | [] | _ :: _ :: _ => rfl
  | tuple items =>
      obtain ⟨others, hothers⟩ := r.exists_tree_tuple items
      rw [hothers]
      rfl
  | _ => rw [r.tree_scalar _ (by simp) (by simp)]; rfl

theorem classifyGuard_tree {pattern : Term} (h : Below r.Carries (sizeOf pattern)) :
    classifyGuard (r.tree pattern) = (classifyGuard pattern).map r.node := by
  rw [classifyGuard_eq, classifyGuard_eq, guardOperands?_tree]
  cases hoperands : guardOperands? pattern with
  | none => rfl
  | some operands =>
      exact classifyLast_tree (h.guardOperands hoperands)

theorem classifyPair_tree (name : Text) {operands : List Term}
    (h : Below r.Carries (sizeOf operands)) :
    classifyPair name (operands.map r.tree) = (classifyPair name operands).map r.node := by
  match operands with
  | [] | [_] | _ :: _ :: _ :: _ => rfl
  | [left, right] =>
      have hleft : classify (r.tree left) = r.node (classify left) := h.head
      have hright : classify (r.tree right) = r.node (classify right) := h.tail.head
      have hguard : classifyGuard (r.tree left) = (classifyGuard left).map r.node :=
        classifyGuard_tree h.item
      simp only [List.map_cons, List.map_nil, classifyPair, hleft, hright, hguard]
      split
      · rfl
      · split
        · cases classifyGuard left <;> simp
        · split <;> simp

theorem boundValue_tree (arg : Term) : boundValue (r.tree arg) = r.tree (boundValue arg) := by
  rw [boundValue_eq, boundValue_eq, r.formArgs?_tree (by decide)]
  match formArgs? "<-" arg with
  | some [_, _] => rfl
  | none | some [] | some [_] | some (_ :: _ :: _ :: _) => rfl

/-- A `with` chain; the clauses, the body and the branch collected before are carried along. -/
theorem classifyWith_tree {args : List Term} (h : Below r.Carries (sizeOf args))
    (clauses : List Node) (body : Node) (otherwise : Option Node) :
    classifyWith (clauses.map r.node) (r.node body) (otherwise.map r.node) (args.map r.tree) =
      r.node (classifyWith clauses body otherwise args) := by
  induction args generalizing clauses body otherwise with
  | nil => simp [classifyWith]
  | cons arg rest ih =>
      by_cases hlist : ∃ entries, arg = .list entries
      · obtain ⟨entries, rfl⟩ := hlist
        have hentries : Below r.Carries (sizeOf entries) := h.item.list
        rw [List.map_cons, r.tree_list, classifyWith, classifyWith,
          classifyEntry_tree "do" hentries, classifyEntry_tree "else" hentries,
          classifyAll_tree hentries]
        cases classifyEntry "do" entries with
        | some body =>
            rw [Option.map_some, ← Option.map_or]
            exact ih h.tail clauses body _
        | none =>
            have hclause := ih h.tail (.sequence (classifyAll entries) :: clauses) body otherwise
            rwa [List.map_cons, node, map_sequence] at hclause
      · have hshape : ∀ entries, arg ≠ .list entries := not_exists.mp hlist
        have hvalue : classify (r.tree (boundValue arg)) = r.node (classify (boundValue arg)) :=
          h.boundValue
        rw [List.map_cons, classifyWith_cons (r.tree_ne_list hshape), classifyWith_cons hshape,
          boundValue_tree, hvalue, ← List.map_cons]
        exact ih h.tail _ body otherwise

/-- A call through a dot, under metadata that gives the rewritten position and the same mark. -/
theorem classifyRemote_tree {operands : List Term} (h : Below r.Carries (sizeOf operands))
    {mark other : Term} (hplace : Position.ofMeta other = r.position (Position.ofMeta mark))
    (hmark : noParens other = noParens mark) (args : List Node) :
    classifyRemote other (args.map r.node) (operands.map r.tree) =
      r.node (classifyRemote mark args operands) := by
  match operands with
  | [] => simp [classifyRemote]
  | [callee] =>
      have hcallee : classify (r.tree callee) = r.node (classify callee) := h.head
      simp [classifyRemote, hcallee]
  | [target, name] =>
      have htarget : classify (r.tree target) = r.node (classify target) := h.head
      by_cases hname : ∃ text, name = .text text
      · obtain ⟨name, rfl⟩ := hname
        by_cases hatom : ∃ text, target = .text text
        · obtain ⟨atom, rfl⟩ := hatom
          simp [classifyRemote, Alias.parts, Alias.currentSegments, hplace, Target.mapAlias]
        · have hshape : ∀ text, target ≠ .text text := not_exists.mp hatom
          rw [List.map_cons, List.map_cons, List.map_nil, r.tree_text,
            classifyRemote_target (r.tree_ne_text hshape), classifyRemote_target hshape,
            r.parts_tree, r.currentSegments_tree, hplace, hmark, htarget]
          cases Alias.parts none target with
          | some segments => simp [Target.mapAlias]
          | none =>
              cases Alias.currentSegments target with
              | some segments => simp [Target.mapAlias]
              | none =>
                  simp only [Option.map_none, List.isEmpty_map, List.length_map]
                  split <;> simp [Target.mapAlias]
      · have hshape : ∀ text, name ≠ .text text := not_exists.mp hname
        have hrest := classifyAll_tree h.tail
        rw [List.map_cons, List.map_cons, List.map_nil,
          classifyRemote_unnamed (r.tree_ne_text hshape), classifyRemote_unnamed hshape, htarget]
        rw [List.map_cons, List.map_nil] at hrest
        simp [hrest]
  | first :: second :: third :: rest =>
      have hfirst : classify (r.tree first) = r.node (classify first) := h.head
      have hrest := classifyAll_tree h.tail
      simp only [List.map_cons] at hrest
      simp only [List.map_cons, classifyRemote_many, hfirst, hrest, node, map_sequence,
        List.map_append]

theorem dotOperands?_tree (head : Term) :
    dotOperands? (r.tree head) = (dotOperands? head).map (List.map r.tree) := by
  rw [dotOperands?_eq, dotOperands?_eq]
  exact r.formArgs?_tree (by decide) head

theorem captureParts?_tree (items : List Term) :
    captureParts? (items.map r.tree) =
      (captureParts? items).map fun (callee, arity) => (r.tree callee, arity) := by
  rw [captureParts?_eq, captureParts?_eq]
  match items with
  | [] | _ :: _ :: _ => rfl
  | [item] =>
      have hslash := r.formArgs?_tree (show ("/" : Text) ≠ "__aliases__" by decide) item
      simp only [List.map_cons, List.map_nil, hslash]
      match formArgs? "/" item with
      | none | some [] | some [_] => rfl
      | some (_ :: _ :: _ :: _) => simp
      | some [callee, arity] =>
          cases arity with
          | int arity => simp
          | list items => simp
          | tuple items =>
              obtain ⟨others, hothers⟩ := r.exists_tree_tuple items
              simp [hothers]
          | _ => simp

theorem argNodes_tree {args : Term} (h : Below r.Carries (sizeOf args)) :
    argNodes (r.tree args) = (argNodes args).map r.node := by
  cases args with
  | list items =>
      rw [r.tree_list]
      exact classifyAll_tree h.list
  | tuple items =>
      obtain ⟨others, hothers⟩ := r.exists_tree_tuple items
      rw [hothers]
      rfl
  | _ => rw [r.tree_scalar _ (by simp) (by simp)]; rfl

theorem calleeNode?_tree {callee : Term} (h : Below r.Carries (sizeOf callee + 1)) :
    calleeNode? (r.tree callee) = (calleeNode? callee).map r.node := by
  by_cases htriple : callee.isTriple = true
  · obtain ⟨head, mark, args, rfl⟩ := exists_of_isTriple htriple
    have hcallee := h (.tuple [head, mark, args]) (Nat.lt_succ_self _)
    obtain ⟨others, hothers⟩ := r.exists_tree_triple head mark args
    rw [Carries, hothers] at hcallee
    rw [hothers, calleeNode?, calleeNode?, dotOperands?_tree]
    cases hdot : dotOperands? head with
    | none => exact congrArg some hcallee
    | some operands =>
        have hoperands : Below r.Carries (sizeOf operands) :=
          (h.mono (Nat.le_succ _)).tuple.item.dotOperands hdot
        -- a captured name has lost its mark on both sides, whatever its metadata said
        have hmark : noParens (withoutNoParens (r.info mark)) =
            noParens (withoutNoParens mark) := by
          rw [noParens_withoutNoParens, noParens_withoutNoParens]
        exact congrArg some (classifyRemote_tree hoperands (r.ofMeta_unmarked mark) hmark [])
  · have hother : ¬ (r.tree callee).isTriple = true := by rwa [r.isTriple_tree]
    rw [calleeNode?_of_not_isTriple htriple, calleeNode?_of_not_isTriple hother]
    rfl

theorem classifyCapture_tree {items : List Term} (h : Below r.Carries (sizeOf items))
    (mark : Term) :
    classifyCapture (r.info mark) (items.map r.tree) = (classifyCapture mark items).map r.node := by
  rw [classifyCapture_eq, classifyCapture_eq, captureParts?_tree]
  cases hparts : captureParts? items with
  | none => rfl
  | some parts =>
      obtain ⟨callee, arity⟩ := parts
      have hcallee := calleeNode?_tree (h.mono (sizeOf_captureParts hparts))
      simp only [Option.map_some, Option.bind_some, hcallee]
      cases calleeNode? callee with
      | none => rfl
      | some node => exact r.captured_node mark arity node

/-- A form with arguments, under the assumption for its arguments. -/
theorem carries_form {name : Text} (hname : name ≠ "__aliases__") (mark : Term) {items : List Term}
    (h : Below r.Carries (sizeOf items)) : r.Carries (.tuple [.text name, mark, .list items]) := by
  have hwith := classifyWith_tree h [] .literal none
  rw [List.map_nil, Option.map_none, r.node_literal] at hwith
  rw [Carries, r.tree_node _ _ _ fun halias => absurd (Term.text.inj halias) hname, r.tree_text,
    r.tree_list, classify, classify, classifyPair_tree name h, classifyAll_tree h,
    classifyCapture_tree h, hwith, r.ofMeta_info, List.length_map]
  cases classifyPair name items with
  | some node => rfl
  | none =>
      cases classifyCapture mark items with
      | some node => simp only [Option.map_none, Option.map_some]; split_ifs <;> simp
      | none => simp only [Option.map_none]; split_ifs <;> simp

/-- A triple whose form is a triple: a call through a dot, or one applied to arguments. -/
theorem carries_applied {head : Term} (htriple : head.isTriple = true) (mark args : Term)
    (h : Below r.Carries (sizeOf (Term.tuple [head, mark, args]))) :
    r.Carries (.tuple [head, mark, args]) := by
  have hform : head = .text "__aliases__" → ∀ items, args ≠ .list items := by
    rintro rfl
    simp [Term.isTriple] at htriple
  have hhead : classify (r.tree head) = r.node (classify head) := h.tuple.head
  have hargs : argNodes (r.tree args) = (argNodes args).map r.node :=
    argNodes_tree h.tuple.tail.tail.item
  rw [Carries, r.tree_node _ _ _ hform, classify_applied ((r.isTriple_tree head).trans htriple),
    classify_applied htriple, dotOperands?_tree, hhead, hargs]
  cases hdot : dotOperands? head with
  | none => simp
  | some operands =>
      exact classifyRemote_tree (h.tuple.item.dotOperands hdot) (r.ofMeta_info mark) (r.noParens_info mark)
        (argNodes args)

theorem carries_alias (mark : Term) (items : List Term) :
    r.Carries (.tuple [.text "__aliases__", mark, .list items]) := by
  obtain ⟨others, hothers⟩ := r.tree_alias mark items
  rw [Carries, hothers, classify_alias, classify_alias, r.node_literal]

/-- A triple, by what stands in the place of its form. -/
theorem carries_triple {head mark args : Term}
    (h : Below r.Carries (sizeOf (Term.tuple [head, mark, args]))) :
    r.Carries (.tuple [head, mark, args]) := by
  by_cases htext : ∃ name, head = .text name
  · obtain ⟨name, rfl⟩ := htext
    by_cases hlist : ∃ items, args = .list items
    · obtain ⟨items, rfl⟩ := hlist
      by_cases halias : name = "__aliases__"
      · subst halias
        exact carries_alias mark items
      · exact carries_form halias mark h.tuple.tail.tail.item.list
    · have hshape : ∀ items, args ≠ .list items := not_exists.mp hlist
      rw [Carries, r.tree_node _ _ _ fun _ => hshape, r.tree_text,
        classify_identifier (r.tree_ne_list hshape), classify_identifier hshape, r.ofMeta_info,
        node, map_leaf]
  · have hshape : ∀ name, head ≠ .text name := not_exists.mp htext
    cases htriple : head.isTriple with
    | true => exact carries_applied htriple mark args h
    | false =>
        rw [Carries, r.tree_node _ _ _ fun halias => absurd halias (hshape _),
          classify_formless ((r.isTriple_tree head).trans htriple) (r.tree_ne_text hshape),
          classify_formless htriple hshape, r.node_literal]

/-- If the rewriting shows as it should below the size of a tree, so it does for the tree. -/
theorem carries_of_below {term : Term} (h : Below r.Carries (sizeOf term)) : r.Carries term := by
  cases term with
  | list items =>
      rw [Carries, r.tree_list, classify, classify, classifyAll_tree h.list, node, map_sequence]
  | tuple items =>
      by_cases hthree : items.length = 3
      · obtain ⟨head, mark, args, rfl⟩ := List.length_eq_three.mp hthree
        exact carries_triple h
      · rw [Carries, r.tree_tuple _ hthree, classify_group hthree,
          classify_group (by rwa [List.length_map]), classifyAll_tree h.tuple, node, map_grouping]
  | _ =>
      rw [Carries, r.tree_scalar _ (by simp) (by simp)]
      exact r.node_literal.symm

variable (r)

/-- The node of a rewritten tree is the node of the tree, with rewritten alias segments and
positions. -/
theorem classify_tree (term : Term) : classify (r.tree term) = r.node (classify term) :=
  forall_of_below (fun _ => carries_of_below) term

end Rewriting

end CallAtlas
