import CallAtlas.Imports
import CallAtlas.Log
import CallAtlas.Ref
import CallAtlas.Store

/-!
From a function to the functions it calls: which clauses a reference means, and which reference a
call means.
-/

namespace CallAtlas

/-- What to do with a clause of unknown arity: it matches every call, or none. -/
inductive ArityPolicy where
  | permissive
  | strict
deriving Repr, DecidableEq, Inhabited

/-- How calls are resolved. -/
structure Resolver where
  policy : ArityPolicy := .permissive
  imports : Table Text Text := Imports.standard
  unknownModule : Text := "?"
deriving Repr, Inhabited

namespace Resolver

/-- Whether a clause can be called with this many arguments. -/
def accepts (resolver : Resolver) (arity : Int) (clause : Clause) : Bool :=
  match clause.arity, clause.params with
  | some own, _ => decide (own - clause.defaults ≤ arity ∧ arity ≤ own)
  | none, some params => decide ((params.length : Int) = arity)
  | none, none => resolver.policy == .permissive

def clauses (resolver : Resolver) (store : Store) (ref : Ref) : List Clause :=
  match store.get? ref.module with
  | some block => (block.clausesOf ref.function).filter (resolver.accepts ref.arity)
  | none => []

/-- The calls that a function makes, clause by clause. -/
def outgoing (resolver : Resolver) (store : Store) (ref : Ref) : List Call :=
  (resolver.clauses store ref).flatMap Clause.calls

/-- Whether a module has a clause of this name. -/
def defines (store : Store) (module name : Text) : Bool :=
  match store.get? module with
  | some block => !(block.clausesOf name).isEmpty
  | none => false

/-- The reference that a call from `module` means.  A call without a module goes to the standard
functions, unless the calling module has a function of that name. -/
def resolve (resolver : Resolver) (store : Store) (module : Text) (call : Call) : Ref :=
  match call.module with
  | some named => ⟨named, call.name, call.arity⟩
  | none =>
    if call.dynamic then ⟨resolver.unknownModule, call.name, call.arity⟩
    else
      match resolver.imports.get? call.name with
      | some imported =>
        if defines store module call.name then ⟨module, call.name, call.arity⟩
        else ⟨imported, call.name, call.arity⟩
      | none => ⟨module, call.name, call.arity⟩

/-- The references that a function calls, in call-site order. -/
def targets (resolver : Resolver) (store : Store) (ref : Ref) : List Ref :=
  (resolver.outgoing store ref).map (resolver.resolve store ref.module)

/-- Every reference that a call of a stored clause means. -/
def allTargets (resolver : Resolver) (store : Store) : List Ref :=
  store.blocks.entries.flatMap fun (module, block) =>
    block.clauses.flatMap fun clause => clause.calls.map (resolver.resolve store module)

/-- Whether a clause is taken without knowing its arity. -/
def assumes (resolver : Resolver) (clause : Clause) : Bool :=
  clause.arity.isNone && clause.params.isNone && resolver.policy == .permissive

/-- What is reported when the calls of a function are looked up. -/
def visitLog (resolver : Resolver) (store : Store) (ref : Ref) : Log :=
  match store.get? ref.module with
  | none =>
    [⟨.debug, .builder,
      "Module " ++ ref.module ++ " not in store, treating " ++ ref.text ++ " as a leaf"⟩]
  | some block =>
    let assumed := (block.clausesOf ref.function).filter resolver.assumes
    let warnings : Log := assumed.map fun clause =>
      ⟨.warning, .builder,
        "Cannot determine arity of " ++ clause.name ++ ", assuming it matches"⟩
    let missing : Log :=
      if (resolver.clauses store ref).isEmpty then
        [⟨.debug, .builder, "No clause of " ++ ref.text ++ " matches, treating it as a leaf"⟩]
      else []
    warnings ++ missing

end Resolver

end CallAtlas
