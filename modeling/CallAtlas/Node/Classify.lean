import CallAtlas.Alias
import CallAtlas.Node.Basic

/-!
Classification: the node kind of every quoted tree.

The forms that are no calls are recognised by name: pipelines, `with` chains, tuples, blocks,
captures, clauses, generators, and containers such as maps and binaries.  What remains is a call.
-/

namespace CallAtlas.Node

/-- Forms that hold their arguments without being a function. -/
def containerForms : List Text := ["fn", "%\x7b\x7d", "%", "<<>>", "|"]

/-- Whether an entry of a keyword list marks a call that was written without parentheses. -/
def marksNoParens : Term → Bool
  | .tuple (.text key :: _) => key == "no_parens"
  | _ => false

/-- Metadata without the marks for calls written without parentheses. -/
def withoutNoParens : Term → Term
  | .list entries => .list (entries.filter fun entry => !marksNoParens entry)
  | info => info

/-- Whether metadata marks a call that was written without parentheses. -/
def noParens (info : Term) : Bool := info.keyword "no_parens" = .bool true

/-- A captured function is a call with the captured arity; other nodes cannot be captured. -/
def captured (info : Term) (arity : Int) : Node → Option Node
  | .qualified target name _ [] receiver position =>
    some (.qualified target name arity [] receiver position)
  | .leaf (some name) position =>
    some (.unqualified name arity [] (position.or (Position.ofMeta info)))
  | _ => none

mutual
def classify : Term → Node
  | .list items => .sequence (classifyAll items)
  | .tuple [first, second] => .grouping [classify first, classify second]
  | .tuple [head, info, args] =>
    match head with
    | .tuple [.text form, dotInfo, .list operands] =>
      let argNodes :=
        match args with
        | .list items => classifyAll items
        | _ => []
      if form = "." then classifyRemote info argNodes operands
      else .sequence (classify (.tuple [.text form, dotInfo, .list operands]) :: argNodes)
    | .tuple [form, dotInfo, dotArgs] =>
      let argNodes :=
        match args with
        | .list items => classifyAll items
        | _ => []
      .sequence (classify (.tuple [form, dotInfo, dotArgs]) :: argNodes)
    | .text name =>
      match args with
      | .list items =>
        match classifyPair name items with
        | some node => node
        | none =>
          if name = "with" then classifyWith [] .literal none items
          else if name = "\x7b\x7d" then .grouping (classifyAll items)
          else if name = "__block__" then .block (classifyAll items)
          else if name = "__aliases__" then .literal
          else if name = "&" then
            match classifyCapture info items with
            | some node => node
            | none => .block (classifyAll items)
          else if name ∈ containerForms then .sequence (classifyAll items)
          else .unqualified name items.length (classifyAll items) (Position.ofMeta info)
      | _ => .leaf (some name) (Position.ofMeta info)
    | _ => .literal
  | .tuple items => .grouping (classifyAll items)
  | _ => .literal

def classifyAll : List Term → List Node
  | [] => []
  | item :: rest => classify item :: classifyAll rest

/-- The node of a call through a dot, from what stands around the dot: `fun.(args)` for one operand,
`target.name(args)` for a target and a name.  Access to a field of a value is no call. -/
def classifyRemote (info : Term) (args : List Node) : List Term → Node
  | [] => .sequence args
  | [callee] => .block (classify callee :: args)
  | [target, .text name] =>
    let position := Position.ofMeta info
    match Alias.parts none target with
    | some segments => .qualified (.alias segments) name args.length args none position
    | none =>
      match Alias.currentSegments target with
      | some segments => .qualified (.current segments) name args.length args none position
      | none =>
        match target with
        | .text atom => .qualified (.atom atom) name args.length args none position
        | target =>
          let receiver := classify target
          if args.isEmpty && noParens info then .block [receiver]
          else .qualified .dynamic name args.length args (some receiver) position
  | first :: rest => .sequence (classify first :: classifyAll rest ++ args)

/-- The node of an operator with two operands that is no call: a pipeline, a clause, of which only the
guard and the body can call, or a generator, of which only the right side can. -/
def classifyPair (name : Text) : List Term → Option Node
  | [left, right] =>
    if name = "|>" then some (.pipeline (classify left) (classify right))
    else if name = "->" then
      match classifyGuard left with
      | some guarded => some (.block [guarded, classify right])
      | none => some (.block [classify right])
    else if name = "<-" then some (.block [classify right])
    else none
  | _ => none

/-- The guard of a clause's pattern list. -/
def classifyGuard : Term → Option Node
  | .list [.tuple [.text form, _, .list operands]] =>
    if form = "when" then classifyLast operands else none
  | _ => none

def classifyLast : List Term → Option Node
  | [] => none
  | [last] => some (classify last)
  | _ :: rest => classifyLast rest

/-- The node of a `with` chain from its arguments: bindings and conditions in order, then a keyword
list with the bodies; `clauses` are those before, backwards. -/
def classifyWith (clauses : List Node) (body : Node) (otherwise : Option Node) : List Term → Node
  | [] => .withChain clauses.reverse body otherwise
  | arg :: rest =>
    match arg with
    | .list entries =>
      match classifyEntry "do" entries with
      | some body => classifyWith clauses body ((classifyEntry "else" entries).or otherwise) rest
      | none => classifyWith (.sequence (classifyAll entries) :: clauses) body otherwise rest
    | .tuple [.text form, info, .list [pattern, value]] =>
      if form = "<-" then classifyWith (classify value :: clauses) body otherwise rest
      else
        let node := classify (.tuple [.text form, info, .list [pattern, value]])
        classifyWith (node :: clauses) body otherwise rest
    | arg => classifyWith (classify arg :: clauses) body otherwise rest

/-- The node of a key's value in a keyword list, if the value is not `null`. -/
def classifyEntry (key : Text) : List Term → Option Node
  | [] => none
  | .tuple [.text name, value] :: rest =>
    if name = key then (if value.isNull then none else some (classify value))
    else classifyEntry key rest
  | _ :: rest => classifyEntry key rest

/-- The call that a capture such as `&Mod.fun/2` or `&fun/2` stands for. -/
def classifyCapture (info : Term) : List Term → Option Node
  | [.tuple [.text slash, _, .list [callee, .int arity]]] =>
    if slash ≠ "/" then none
    else
      match callee with
      | .tuple [.tuple [.text dot, dotInfo, .list operands], calleeInfo, args] =>
        if dot = "." then
          captured info arity (classifyRemote (withoutNoParens calleeInfo) [] operands)
        else
          captured info arity
            (classify (.tuple [.tuple [.text dot, dotInfo, .list operands], calleeInfo, args]))
      | .tuple [head, calleeInfo, args] =>
        captured info arity (classify (.tuple [head, calleeInfo, args]))
      | _ => none
  | _ => none
end

end CallAtlas.Node
