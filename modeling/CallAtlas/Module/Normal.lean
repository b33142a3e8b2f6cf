import CallAtlas.Module.Block
import CallAtlas.Node.Calls
import CallAtlas.Node.Classify

/-!
Normalization: from the quoted definition of a module to its block.
-/

namespace CallAtlas

/-- Why a quoted tree has no block. -/
inductive NormalError where
  | notModule (tree : String)
  | unreadableName (node : String)
  | noBody (module : Text)
  | listForm
  | tooDeep
  | unshown (cause : Term.ShowFault)
deriving Repr, DecidableEq, Inhabited

namespace NormalError

def message : NormalError → Text
  | .notModule tree => "Not a module definition: " ++ tree
  | .unreadableName node => "Unrecognized module name: " ++ node
  | .noBody module => "Module " ++ module ++ " has no do block"
  | .listForm => "unhashable type: 'list'"
  | .tooDeep => "maximum recursion depth exceeded"
  | .unshown cause => cause.message

/-- A failure that shows a tree in its message, or the failure to show it. -/
def showing [Depths] (report : String → NormalError) (term : Term) : NormalError :=
  match term.describe with
  | .ok text => report text
  | .error cause => .unshown cause

end NormalError

/-- A block together with the alias table of its module. -/
structure Normal where
  block : Block
  aliases : Table Text Text
deriving Repr, DecidableEq, Inhabited

namespace Normal

/-- What a module definition says before its body is read. -/
structure Header where
  name : Text
  body : Term
  info : Term
deriving Repr, DecidableEq, Inhabited

/-- Whether an entry of a keyword list is the body of a definition. -/
def isBody : Term → Bool
  | .tuple [.text key, _] => key == "do"
  | _ => false

/-- Reads the header of a definition.  A given module name wins over the declared one, unless it is
empty. -/
def header [Depths] (tree : Term) (module : Option Text) : Except NormalError Header :=
  match tree with
  | .tuple [.text form, info, .list [nameNode, options]] =>
    if form ≠ "defmodule" then .error (.showing .notModule tree)
    else
      match Alias.parts module nameNode with
      | none => .error (.showing .unreadableName nameNode)
      | some segments =>
        let name := if (module.getD "").isEmpty then Dotted.join segments else module.getD ""
        match options with
        | .list entries =>
          if entries.any isBody then .ok ⟨name, options.keyword "do", info⟩
          else .error (.noBody name)
        | _ => .error (.noBody name)
  | tree => .error (.showing .notModule tree)

def statements : Term → List Term
  | .null => []
  | .tuple [.text form, info, .list items] =>
    if form = "__block__" then items else [.tuple [.text form, info, .list items]]
  | body => [body]

mutual
/-- Whether a list stands anywhere in a form.  Such a form cannot be looked up. -/
def holdsList : Term → Bool
  | .list _ => true
  | .tuple items => anyHoldsList items
  | _ => false

def anyHoldsList : List Term → Bool
  | [] => false
  | item :: rest => holdsList item || anyHoldsList rest
end

/-- Whether a statement is a triple whose form cannot be looked up. -/
def hasListForm : Term → Bool
  | .tuple [form, _, _] => holdsList form
  | _ => false

/-- A parameter without its default value, and whether it had one. -/
def withoutDefault : Term → Term × Bool
  | .tuple [.text form, info, .list (first :: rest)] =>
    if form = "\\\\" then (first, true)
    else (.tuple [.text form, info, .list (first :: rest)], false)
  | param => (param, false)

/-- The name of a parameter: that of a plain variable, otherwise one made from its place. -/
def paramName (index : Nat) : Term → Text
  | .tuple [.text _, _, .list _] => "arg" ++ toString index
  | .tuple [.text name, _, _] => name
  | _ => "arg" ++ toString index

/-- The names of parameters, the first having the given index. -/
def paramNames : Nat → List Term → List Text
  | _, [] => []
  | index, param :: rest =>
    paramName index (withoutDefault param).1 :: paramNames (index + 1) rest

/-- How many parameters have a default value. -/
def defaultCount (params : List Term) : Nat := params.countP fun param => (withoutDefault param).2

/-- The guard and head of a function definition. -/
def splitGuard : Term → Term × Term
  | .tuple [.text form, info, .list [head, guarded]] =>
    if form = "when" then (head, guarded)
    else (.tuple [.text form, info, .list [head, guarded]], .null)
  | head => (head, .null)

/-- A function clause as a statement defines it.  Guard and bodies are searched for calls. -/
structure Definition where
  name : Text
  params : List Term
  searched : List Term
  isPrivate : Bool
  info : Term
deriving Repr, DecidableEq, Inhabited

/-- The bodies in a keyword list: `do`, `rescue`, `after` and so on. -/
def bodies : List Term → List Term
  | [] => []
  | .tuple [_, body] :: rest => body :: bodies rest
  | _ :: rest => bodies rest

/-- The definition of a function head with its bodies.  Heads made by `unquote` have no name. -/
def definitionOf (isPrivate : Bool) (info head : Term) (entries : List Term) : Option Definition :=
  let (head, guarded) := splitGuard head
  match head with
  | .tuple [.text name, _, rawParams] =>
    if name = "unquote" then none
    else
      let params :=
        match rawParams with
        | .list items => items
        | _ => []
      let guards := if guarded.isNull then [] else [guarded]
      some { name, params, searched := guards ++ bodies entries, isPrivate, info }
  | _ => none

/-- The definition that a statement makes.  A head without a body only declares defaults. -/
def definition? : Term → Option Definition
  | .tuple [.text form, info, .list [head, .list entries]] =>
    if form = "def" then definitionOf false info head entries
    else if form = "defp" then definitionOf true info head entries
    else none
  | _ => none

def callsOf (scope : Scope) (term : Term) : List Call := (Node.classify term).calls scope false

def Definition.clause (scope : Scope) (definition : Definition) : Clause where
  name := definition.name
  calls := definition.searched.flatMap (callsOf scope)
  arity := some definition.params.length
  params := some (paramNames 0 definition.params)
  defaults := defaultCount definition.params
  isPrivate := definition.isPrivate
  position := Position.ofMeta definition.info

def clause? (scope : Scope) (statement : Term) : Option Clause :=
  (definition? statement).map (Definition.clause scope)

/-- The attribute that a statement sets. -/
def attribute? : Term → Option Attribute
  | .tuple [.text form, _, .list [.tuple [.text key, _, values]]] =>
    if form ≠ "@" then none
    else
      match values with
      | .list [value] => some ⟨key, value⟩
      | value => some ⟨key, value⟩
  | _ => none

/-- Whether a guard or body of a definition is nested too deep for its calls to be collected. -/
def isTooDeep [Depths] (statement : Term) : Bool :=
  (definition? statement).any fun definition =>
    definition.searched.any fun term => (Node.classify term).deeperThan Depths.collected

/-- What keeps a statement from being read. -/
def statementFault? [Depths] (statement : Term) : Option NormalError :=
  if hasListForm statement then some .listForm
  else if isTooDeep statement then some .tooDeep
  else none

/-- The block of a quoted module definition.  The first statement that cannot be read decides how it
fails. -/
def ofTree [Depths] (tree : Term) (module : Option Text) : Except NormalError Normal := do
  let header ← header tree module
  let items := statements header.body
  match items.findSome? statementFault? with
  | some fault => .error fault
  | none =>
    let aliases := Alias.collect (some header.name) items
    let scope : Scope := { module := header.name, aliases }
    .ok {
      block := {
        name := header.name
        clauses := items.filterMap (clause? scope)
        attributes := (items.filter fun item => (definition? item).isNone).filterMap attribute?
        position := Position.ofMeta header.info }
      aliases }

end Normal

end CallAtlas
