import Mathlib.Data.List.Perm.Basic
import CallAtlas.Node.Calls

/-!
Pipelines as calls.  Desugaring writes what is piped into a call as its first argument, so that no
pipeline is left.  A node and its desugared form make the same calls, with the same arities, modules
and positions; only their order differs, since a piped value comes before the call it is piped into
and an argument comes after.

`children` are the nodes right below a node.  Induction over them serves every result here, so that
each has one case for each kind of node.
-/

namespace CallAtlas.Node

section Children

/-- The nodes right below a node. -/
def children : Node → List Node
  | .leaf _ _ | .foreign _ => []
  | .qualified _ _ _ args receiver _ => receiver.toList ++ args
  | .unqualified _ _ args _ => args
  | .pipeline left right => [left, right]
  | .withChain clauses body otherwise => clauses ++ body :: otherwise.toList
  | .grouping nodes | .sequence nodes | .block nodes => nodes

theorem sizeOf_lt_of_mem_children {node child : Node} (hchild : child ∈ node.children) :
    sizeOf child < sizeOf node := by
  cases node with
  | leaf name position => simp [children] at hchild
  | qualified target name arity args receiver position =>
      rcases List.mem_append.mp hchild with hreceiver | harg
      · obtain rfl := Option.mem_toList.mp hreceiver
        simp +arith
      · have hlt := List.sizeOf_lt_of_mem harg
        simp only [qualified.sizeOf_spec]
        omega
  | unqualified name arity args position =>
      have hlt := List.sizeOf_lt_of_mem hchild
      simp only [unqualified.sizeOf_spec, children] at hlt ⊢
      omega
  | pipeline left right =>
      simp only [children, List.mem_cons, List.not_mem_nil, or_false] at hchild
      rcases hchild with rfl | rfl <;> simp +arith
  | withChain clauses body otherwise =>
      simp only [children, List.mem_append, List.mem_cons, Option.mem_toList] at hchild
      simp only [withChain.sizeOf_spec]
      rcases hchild with hclause | rfl | rfl
      · have hlt := List.sizeOf_lt_of_mem hclause
        omega
      · omega
      · simp +arith
  | grouping nodes | sequence nodes | block nodes =>
      have hlt := List.sizeOf_lt_of_mem hchild
      simp +arith only [children, grouping.sizeOf_spec, sequence.sizeOf_spec,
        block.sizeOf_spec] at hlt ⊢
      omega
  | foreign kind => simp [children] at hchild

/-- What passes from the children of a node to the node holds of every node. -/
theorem of_children {P : Node → Prop} (step : ∀ node, (∀ child ∈ node.children, P child) → P node)
    (node : Node) : P node :=
  step node fun child _ => of_children step child
termination_by sizeOf node
decreasing_by exact sizeOf_lt_of_mem_children ‹_›

mutual
/-- Whether a node and everything below it pass a test. -/
def all (test : Node → Bool) : Node → Bool
  | .leaf name position => test (.leaf name position)
  | .qualified target name arity args receiver position =>
    test (.qualified target name arity args receiver position)
      && (match receiver with
          | some receiver => all test receiver
          | none => true)
      && allAmong test args
  | .unqualified name arity args position =>
    test (.unqualified name arity args position) && allAmong test args
  | .pipeline left right => test (.pipeline left right) && all test left && all test right
  | .withChain clauses body otherwise =>
    test (.withChain clauses body otherwise) && allAmong test clauses && all test body
      && (match otherwise with
          | some otherwise => all test otherwise
          | none => true)
  | .grouping nodes => test (.grouping nodes) && allAmong test nodes
  | .sequence nodes => test (.sequence nodes) && allAmong test nodes
  | .block nodes => test (.block nodes) && allAmong test nodes
  | .foreign kind => test (.foreign kind)

def allAmong (test : Node → Bool) : List Node → Bool
  | [] => true
  | node :: rest => all test node && allAmong test rest
end

theorem allAmong_eq (test : Node → Bool) (nodes : List Node) :
    allAmong test nodes = nodes.all (all test) := by
  induction nodes with
  | nil => rfl
  | cons node rest ih => rw [allAmong, ih, List.all_cons]

theorem all_iff (test : Node → Bool) (node : Node) :
    node.all test = true ↔ test node = true ∧ ∀ child ∈ node.children, child.all test = true := by
  cases node with
  | qualified target name arity args receiver position =>
      cases receiver <;> simp [all, allAmong_eq, children, and_assoc]
  | withChain clauses body otherwise =>
      cases otherwise <;> simp [all, allAmong_eq, children, and_assoc, or_imp, forall_and]
  | _ => simp [all, allAmong_eq, children, and_assoc]

end Children

theorem callsAll_eq_flatMap (scope : Scope) (nodes : List Node) :
    callsAll scope nodes = nodes.flatMap (calls scope false) := by
  induction nodes with
  | nil => rfl
  | cons node rest ih => rw [callsAll, ih, List.flatMap_cons]

section Faults

/-- Whether a node is of one of the closed kinds, with a name if it is a call on an atom. -/
def isSound : Node → Bool
  | .qualified target _ _ _ _ _ => target ≠ .nameless
  | .foreign _ => false
  | _ => true

/-- Whether a node is made of sound nodes only. -/
def isWellFormed (node : Node) : Bool := node.all isSound

theorem faultAmong?_eq_none_iff (nodes : List Node) :
    faultAmong? nodes = none ↔ ∀ node ∈ nodes, node.fault? = none := by
  induction nodes with
  | nil => simp [faultAmong?]
  | cons node rest ih => simp [faultAmong?, ih]

theorem fault?_eq_none_iff (node : Node) :
    node.fault? = none ↔
      node.isSound = true ∧ ∀ child ∈ node.children, child.fault? = none := by
  cases node with
  | qualified target name arity args receiver position =>
      by_cases hnamed : target = .nameless
      · cases receiver <;> simp [fault?, isSound, hnamed]
      · cases receiver <;> simp [fault?, isSound, hnamed, children, faultAmong?_eq_none_iff]
  | withChain clauses body otherwise =>
      cases otherwise <;>
        simp [fault?, isSound, children, faultAmong?_eq_none_iff, and_assoc, or_imp, forall_and]
  | _ => simp [fault?, isSound, children, faultAmong?_eq_none_iff]

/-- The calls of a node are collected without a fault if it is well-formed. -/
theorem extract_of_isWellFormed (scope : Scope) {node : Node} (hnode : node.isWellFormed = true) :
    node.extract scope = .ok (node.calls scope false) := by
  have hfault : node.fault? = none := by
    induction node using of_children with
    | step node ih =>
        obtain ⟨hsound, hchildren⟩ := (all_iff isSound node).mp hnode
        exact (fault?_eq_none_iff node).mpr
          ⟨hsound, fun child hchild => ih child hchild (hchildren child hchild)⟩
  rw [extract, hfault]

end Faults

mutual
/-- A node without pipelines: what is piped into a call becomes its first argument, and what is piped
into a bare identifier the argument of a call of that name.  Piping into anything else only puts
two nodes in order. -/
def desugar : Node → Node
  | .pipeline left right =>
    match right with
    | .qualified target name arity args receiver position =>
      .qualified target name (arity + 1) (desugar left :: desugarAll args)
        (match receiver with
          | some receiver => some (desugar receiver)
          | none => none)
        position
    | .unqualified name arity args position =>
      .unqualified name (arity + 1) (desugar left :: desugarAll args) position
    | .leaf (some name) position => .unqualified name 1 [desugar left] position
    | right => .sequence [desugar left, desugar right]
  | .leaf name position => .leaf name position
  | .qualified target name arity args receiver position =>
    .qualified target name arity (desugarAll args)
      (match receiver with
        | some receiver => some (desugar receiver)
        | none => none)
      position
  | .unqualified name arity args position => .unqualified name arity (desugarAll args) position
  | .withChain clauses body otherwise =>
    .withChain (desugarAll clauses) (desugar body)
      (match otherwise with
        | some otherwise => some (desugar otherwise)
        | none => none)
  | .grouping nodes => .grouping (desugarAll nodes)
  | .sequence nodes => .sequence (desugarAll nodes)
  | .block nodes => .block (desugarAll nodes)
  | .foreign kind => .foreign kind

def desugarAll : List Node → List Node
  | [] => []
  | node :: rest => desugar node :: desugarAll rest
end

@[simp] theorem desugarAll_eq_map (nodes : List Node) : desugarAll nodes = nodes.map desugar := by
  induction nodes with
  | nil => rfl
  | cons node rest ih => exact congrArg (desugar node :: ·) ih

section Equations

variable (target : Target) (name : Text) (arity : Int) (args : List Node) (receiver : Option Node)
  (position : Option Position) (left : Node) (nodes : List Node)

@[simp] theorem desugar_leaf (name : Option Text) : desugar (.leaf name position) =
    .leaf name position := rfl

@[simp] theorem desugar_qualified :
    desugar (.qualified target name arity args receiver position) =
      .qualified target name arity (args.map desugar) (receiver.map desugar) position := by
  rw [← desugarAll_eq_map]
  cases receiver <;> rfl

@[simp] theorem desugar_unqualified : desugar (.unqualified name arity args position) =
    .unqualified name arity (args.map desugar) position := by
  rw [← desugarAll_eq_map]
  rfl

@[simp] theorem desugar_withChain (clauses : List Node) (body : Node) (otherwise : Option Node) :
    desugar (.withChain clauses body otherwise) =
      .withChain (clauses.map desugar) body.desugar (otherwise.map desugar) := by
  rw [← desugarAll_eq_map]
  cases otherwise <;> rfl

@[simp] theorem desugar_grouping : desugar (.grouping nodes) = .grouping (nodes.map desugar) := by
  rw [← desugarAll_eq_map]
  rfl

@[simp] theorem desugar_sequence : desugar (.sequence nodes) = .sequence (nodes.map desugar) := by
  rw [← desugarAll_eq_map]
  rfl

@[simp] theorem desugar_block : desugar (.block nodes) = .block (nodes.map desugar) := by
  rw [← desugarAll_eq_map]
  rfl

@[simp] theorem desugar_foreign (kind : String) : desugar (.foreign kind) = .foreign kind := rfl

@[simp] theorem desugar_pipeline_qualified :
    desugar (.pipeline left (.qualified target name arity args receiver position)) =
      .qualified target name (arity + 1) (left.desugar :: args.map desugar)
        (receiver.map desugar) position := by
  rw [← desugarAll_eq_map]
  cases receiver <;> rfl

@[simp] theorem desugar_pipeline_unqualified :
    desugar (.pipeline left (.unqualified name arity args position)) =
      .unqualified name (arity + 1) (left.desugar :: args.map desugar) position := by
  rw [← desugarAll_eq_map]
  rfl

@[simp] theorem desugar_pipeline_name :
    desugar (.pipeline left (.leaf (some name) position)) =
      .unqualified name 1 [left.desugar] position := rfl

/-- Whether a value can be piped into a node: a call, or a bare identifier. -/
def isCallable : Node → Bool
  | .qualified _ _ _ _ _ _ | .unqualified _ _ _ _ | .leaf (some _) _ => true
  | _ => false

/-- Piping into what cannot be called only puts two nodes in order. -/
theorem desugar_pipeline_of_not_isCallable {right : Node} (hright : right.isCallable = false) :
    desugar (.pipeline left right) = .sequence [left.desugar, right.desugar] := by
  cases right with
  | qualified | unqualified => contradiction
  | leaf name position =>
      cases name with
      | none => rfl
      | some name => contradiction
  | _ => rfl

theorem calls_piped_of_not_isCallable {right : Node} (hright : right.isCallable = false)
    (scope : Scope) (piped : Bool) : right.calls scope piped = right.calls scope false := by
  cases right with
  | leaf name position => cases name <;> simp_all [isCallable, calls]
  | withChain clauses body otherwise => cases otherwise <;> simp [calls]
  | _ => simp_all [isCallable, calls]

end Equations

section Kinds

/-- Whether a node is a pipeline. -/
def isPipeline : Node → Bool
  | .pipeline _ _ => true
  | _ => false

/-- The call that a node makes itself, without those below it. -/
def ownCalls (scope : Scope) : Node → List Call
  | .qualified target name arity _ _ position => [qualifiedCall scope target name arity position]
  | .unqualified name arity _ position => [{ name, arity, position }]
  | _ => []

variable {node : Node} (hnode : node.isPipeline = false)
include hnode

/-- A node that is no pipeline makes its own call and those of its children. -/
theorem calls_eq_ownCalls_append (scope : Scope) :
    node.calls scope false =
      node.ownCalls scope ++ node.children.flatMap (calls scope false) := by
  cases node with
  | pipeline left right => simp [isPipeline] at hnode
  | qualified target name arity args receiver position =>
      cases receiver <;>
        simp [calls, callsAll_eq_flatMap, ownCalls, children, withPiped]
  | withChain clauses body otherwise =>
      cases otherwise <;> simp [calls, callsAll_eq_flatMap, ownCalls, children]
  | leaf name position => cases name <;> simp [calls, ownCalls, children]
  | _ => simp [calls, callsAll_eq_flatMap, ownCalls, children, withPiped]

/-- A node that is no pipeline keeps its kind, with desugared children. -/
theorem children_desugar : node.desugar.children = node.children.map desugar := by
  cases node with
  | pipeline left right => simp [isPipeline] at hnode
  | qualified target name arity args receiver position =>
      cases receiver <;> simp [children]
  | withChain clauses body otherwise =>
      cases otherwise <;> simp [children]
  | _ => simp [children]

theorem ownCalls_desugar (scope : Scope) : node.desugar.ownCalls scope = node.ownCalls scope := by
  cases node with
  | pipeline left right => simp [isPipeline] at hnode
  | _ => simp [ownCalls]

theorem isSound_desugar : node.desugar.isSound = node.isSound := by
  cases node with
  | pipeline left right => simp [isPipeline] at hnode
  | _ => simp [isSound]

omit hnode

theorem isPipeline_desugar (node : Node) : node.desugar.isPipeline = false := by
  cases node with
  | pipeline left right =>
      cases right with
      | qualified | unqualified => simp [isPipeline]
      | leaf name position => cases name <;> rfl
      | _ => rfl
  | _ => simp [isPipeline]

end Kinds

section Calls

variable {scope : Scope}

/-- The call that a node makes is the same when desugared, so that the calls below it are too. -/
theorem perm_children {node : Node} (hnode : node.isPipeline = false)
    (hcalls : (node.calls scope false).Perm (node.desugar.calls scope false)) :
    (node.children.flatMap (calls scope false)).Perm
      (node.desugar.children.flatMap (calls scope false)) := by
  rw [calls_eq_ownCalls_append hnode, calls_eq_ownCalls_append (isPipeline_desugar node),
    ownCalls_desugar hnode] at hcalls
  exact (List.perm_append_left_iff _).mp hcalls

/-- One pipeline, if what stands on its two sides makes the same calls when desugared. -/
theorem perm_calls_pipeline {left right : Node}
    (hleft : (left.calls scope false).Perm (left.desugar.calls scope false))
    (hright : (right.calls scope false).Perm (right.desugar.calls scope false)) :
    ((pipeline left right).calls scope false).Perm
      ((pipeline left right).desugar.calls scope false) := by
  -- A call moves to the front of what is piped into it; below it only the order of two parts changes.
  have hfront (call : Call) {below below' : List Call} (hbelow : below.Perm below') :
      (left.calls scope false ++ call :: below).Perm
        (call :: (left.desugar.calls scope false ++ below')) :=
    List.perm_middle.trans ((hleft.append hbelow).cons call)
  cases hcallable : right.isCallable with
  | false =>
      rw [desugar_pipeline_of_not_isCallable left hcallable, calls, calls, callsAll, callsAll, callsAll,
        calls_piped_of_not_isCallable hcallable, List.append_nil]
      exact hleft.append hright
  | true =>
      cases right with
      | qualified target name arity args receiver position =>
          have hbelow := hfront (qualifiedCall scope target name (arity + 1) position)
            (perm_children rfl hright)
          have hswap : (left.desugar.calls scope false ++
                ((receiver.map desugar).toList ++ args.map desugar).flatMap (calls scope false)).Perm
              (((receiver.map desugar).toList ++ left.desugar :: args.map desugar).flatMap
                (calls scope false)) := by
            rw [List.flatMap_append, List.flatMap_append, List.flatMap_cons]
            exact List.perm_append_comm_assoc _ _ _
          rw [desugar_qualified] at hbelow
          rw [calls_eq_ownCalls_append (isPipeline_desugar _), desugar_pipeline_qualified]
          refine List.Perm.trans ?_ (hbelow.trans (hswap.cons _))
          cases receiver <;> simp [calls, callsAll_eq_flatMap, children, withPiped]
      | unqualified name arity args position =>
          have hbelow := hfront { name, arity := arity + 1, position } (perm_children rfl hright)
          simpa [calls, callsAll_eq_flatMap, children, withPiped] using hbelow
      | leaf name position =>
          cases name with
          | none => simp [isCallable] at hcallable
          | some name =>
              have hbelow := hfront { name, arity := 1, position } (List.Perm.refl [])
              simpa [calls, callsAll, withPiped] using hbelow
      | _ => simp [isCallable] at hcallable

/-- A node and its desugared form make the same calls. -/
theorem perm_calls_desugar (scope : Scope) (node : Node) :
    (node.calls scope false).Perm (node.desugar.calls scope false) := by
  induction node using of_children with
  | step node ih =>
      cases hnode : node.isPipeline with
      | true =>
          cases node with
          | pipeline left right =>
              exact perm_calls_pipeline (ih left (by simp [children])) (ih right (by simp [children]))
          | _ => simp [isPipeline] at hnode
      | false =>
          rw [calls_eq_ownCalls_append hnode, calls_eq_ownCalls_append (isPipeline_desugar node),
            ownCalls_desugar hnode, children_desugar hnode, List.flatMap_map]
          exact (List.Perm.flatMap_left _ ih).append_left _

end Calls

section Plain

/-- Whether a node is sound and no pipeline. -/
def isPlain (node : Node) : Bool := node.isSound && !node.isPipeline

theorem all_mono {test other : Node → Bool} (himp : ∀ node, test node = true → other node = true)
    {node : Node} (hnode : node.all test = true) : node.all other = true := by
  induction node using of_children with
  | step node ih =>
      obtain ⟨htest, hchildren⟩ := (all_iff test node).mp hnode
      exact (all_iff other node).mpr
        ⟨himp node htest, fun child hchild => ih child hchild (hchildren child hchild)⟩

/-- Desugaring a pipeline whose two sides are plain when desugared. -/
theorem all_isPlain_pipeline {left right : Node} (hleft : left.desugar.all isPlain = true)
    (hright : right.desugar.all isPlain = true) :
    (pipeline left right).desugar.all isPlain = true := by
  obtain ⟨hown, hbelow⟩ := (all_iff isPlain right.desugar).mp hright
  cases hcallable : right.isCallable with
  | false =>
      rw [desugar_pipeline_of_not_isCallable left hcallable, all_iff]
      exact ⟨rfl, by simpa [children] using ⟨hleft, hright⟩⟩
  | true =>
      cases right with
      | qualified target name arity args receiver position =>
          rw [desugar_qualified] at hown hbelow
          rw [desugar_pipeline_qualified, all_iff]
          refine ⟨hown, ?_⟩
          intro child hchild
          simp only [children, List.mem_append, List.mem_cons] at hchild
          rcases hchild with hreceiver | rfl | harg
          · exact hbelow child (List.mem_append_left _ hreceiver)
          · exact hleft
          · exact hbelow child (List.mem_append_right _ harg)
      | unqualified name arity args position =>
          rw [desugar_unqualified] at hbelow
          rw [desugar_pipeline_unqualified, all_iff]
          exact ⟨rfl, List.forall_mem_cons.mpr ⟨hleft, hbelow⟩⟩
      | leaf name position =>
          cases name with
          | none => simp [isCallable] at hcallable
          | some name =>
              rw [desugar_pipeline_name, all_iff]
              exact ⟨rfl, by simpa [children] using hleft⟩
      | _ => simp [isCallable] at hcallable

/-- A well-formed node is well-formed and free of pipelines when desugared. -/
theorem all_isPlain_desugar {node : Node} (hnode : node.isWellFormed = true) :
    node.desugar.all isPlain = true := by
  induction node using of_children with
  | step node ih =>
      obtain ⟨hsound, hchildren⟩ := (all_iff isSound node).mp hnode
      cases hpipeline : node.isPipeline with
      | true =>
          cases node with
          | pipeline left right =>
              have hleft : left ∈ (pipeline left right).children := by simp [children]
              have hright : right ∈ (pipeline left right).children := by simp [children]
              exact all_isPlain_pipeline (ih left hleft (hchildren left hleft))
                (ih right hright (hchildren right hright))
          | _ => simp [isPipeline] at hpipeline
      | false =>
          refine (all_iff isPlain _).mpr ⟨?_, ?_⟩
          · rw [isPlain, isSound_desugar hpipeline, hsound, isPipeline_desugar]
            rfl
          · rw [children_desugar hpipeline, List.forall_mem_map]
            exact fun child hchild => ih child hchild (hchildren child hchild)

end Plain

/-- Pipelines mean their desugared calls.  Whatever module and alias table they are read against,
the calls of a well-formed node are those of its desugared form in another order, and that form
has no pipeline anywhere. -/
theorem extract_desugar (scope : Scope) {node : Node} (hnode : node.isWellFormed = true) :
    ∃ calls desugared, node.extract scope = .ok calls ∧
      node.desugar.extract scope = .ok desugared ∧ calls.Perm desugared ∧
      node.desugar.all (fun part => !part.isPipeline) = true := by
  have hplain := all_isPlain_desugar hnode
  have hwell : node.desugar.isWellFormed = true :=
    all_mono (fun part hpart => (Bool.and_eq_true_iff.mp hpart).1) hplain
  exact ⟨_, _, extract_of_isWellFormed scope hnode, extract_of_isWellFormed scope hwell,
    perm_calls_desugar scope node,
    all_mono (fun part hpart => (Bool.and_eq_true_iff.mp hpart).2) hplain⟩

/-- `items |> load(key |> find) |> Cart.add(total |> (rate |> tax()))`, where `Cart` is short for
another module. -/
theorem extract_desugar_nested :
    let scope : Scope := { module := "Shop", aliases := .ofList [("Cart", "Shop.Cart")] }
    let name (text : Text) : Node := .leaf (some text) none
    let node : Node :=
      .pipeline
        (.pipeline (name "items") (.unqualified "load" 1 [.pipeline (name "key") (name "find")] none))
        (.qualified (.alias ["Cart"]) "add" 1
          [.pipeline (name "total") (.pipeline (name "rate") (.unqualified "tax" 0 [] none))]
          none none)
    node.isWellFormed = true ∧
      node.calls scope false =
        [{ name := "load", arity := 2 }, { name := "find", arity := 1 },
          { name := "add", arity := 2, module := some "Shop.Cart" }, { name := "tax", arity := 1 }] ∧
      node.desugar.calls scope false =
        [{ name := "add", arity := 2, module := some "Shop.Cart" }, { name := "load", arity := 2 },
          { name := "find", arity := 1 }, { name := "tax", arity := 1 }] ∧
      ∃ calls desugared, node.extract scope = .ok calls ∧
        node.desugar.extract scope = .ok desugared ∧ calls.Perm desugared ∧
        node.desugar.all (fun part => !part.isPipeline) = true := by
  intro scope name node
  have hnode : node.isWellFormed = true := by decide
  exact ⟨hnode, by decide, by decide, extract_desugar scope hnode⟩

end CallAtlas.Node
