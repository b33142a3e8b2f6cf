import CallAtlas.Command.Options
import CallAtlas.Settings

/-!
The commands of the command line and their arguments.
-/

namespace CallAtlas.Command

inductive GraphFormat where
  | text
  | diagram
  | json
deriving Repr, DecidableEq, Inhabited

inductive Action where
  | scan (asJson : Bool)
  | modules (asJson : Bool)
  | block (module : Text) (asJson : Bool)
  | ast (module : Text)
  | graph (module function : Text) (arity : Int) (format : GraphFormat)
      (maxNodes maxEdges : Option Int) (strict : Bool)
deriving Repr, DecidableEq, Inhabited

/-- A command with the folder it reads, if one is named. -/
structure Invocation where
  action : Action
  source : Option Text
deriving Repr, DecidableEq, Inhabited

def globalSpecs : List OptionSpec := [{ name := "log-level", letter := some 'l', takesValue := true }]

def sourceSpec : OptionSpec := { name := "source", letter := some 's', takesValue := true }

def jsonSpec : OptionSpec := { name := "json", letter := some 'j' }

/-- The options of a command; nothing for a word that is no command. -/
def specsOf (command : Text) : Option (List OptionSpec) :=
  if command = "scan" ∨ command = "modules" ∨ command = "block" then some [sourceSpec, jsonSpec]
  else if command = "ast" then some [sourceSpec]
  else if command = "graph" then
    some [
      sourceSpec, jsonSpec, { name := "mermaid", letter := some 'm' }, { name := "strict" },
      { name := "max-nodes", takesValue := true }, { name := "max-edges", takesValue := true }]
  else none

def wholeOf? (argument : Text) : Option Int := do
  let chars ← argument.string?
  (Whole.read chars).toOption

/-- A budget option: none if it is missing, otherwise a whole number from one on. -/
def budgetOption (sorted : Sorted) (name : String) : Option (Option Int) :=
  match sorted.value? name with
  | none => some none
  | some argument => ((wholeOf? argument).filter (1 ≤ ·)).map some

def actionOf (command : Text) (sorted : Sorted) : Option Action :=
  let asJson := sorted.hasFlag "json"
  match command, sorted.positional with
  | .plain "scan", [] => some (.scan asJson)
  | .plain "modules", [] => some (.modules asJson)
  | .plain "block", [module] => some (.block module asJson)
  | .plain "ast", [module] => some (.ast module)
  | .plain "graph", [module, function, arityText] => do
    let arity ← wholeOf? arityText
    let maxNodes ← budgetOption sorted "max-nodes"
    let maxEdges ← budgetOption sorted "max-edges"
    let format : GraphFormat :=
      if asJson then .json else if sorted.hasFlag "mermaid" then .diagram else .text
    pure (.graph module function arity format maxNodes maxEdges (sorted.hasFlag "strict"))
  | _, _ => none

/-- Why arguments are not taken: they fit no command, or a folder cannot have the name given. -/
inductive Refusal where
  | usage
  | path (cause : PathFault)
deriving Repr, DecidableEq, Inhabited

/-- The refusal of the first option whose value does not fit, in the order in which the options are
given. -/
def optionRefusal? (sorted : Sorted) : Option Refusal :=
  sorted.values.reverse.findSome? fun (name, _) =>
    if name = sourceSpec.name then
      ((sorted.value? name).bind PathFault.ofText?).map .path
    else if (budgetOption sorted name).isNone then some .usage
    else none

/-- The command of some arguments that follow its name.  Its options are read before its other
arguments. -/
def invocationOf (command : Text) (arguments : List Text) : Except Refusal Invocation :=
  match (specsOf command).bind fun specs => sortArguments specs true {} arguments with
  | none => .error .usage
  | some sorted =>
    match optionRefusal? sorted, actionOf command sorted with
    | some refusal, _ => .error refusal
    | none, none => .error .usage
    | none, some action => .ok { action, source := sorted.value? sourceSpec.name }

/-- Arguments read as far as the command name: the level asked for, the command, and the rest. -/
structure Opening where
  logLevel : Option Text
  command : Text
  arguments : List Text
deriving Repr, DecidableEq, Inhabited

/-- Reads the arguments up to a known command. -/
def openingOf (arguments : List Text) : Option Opening := do
  let sorted ← sortArguments globalSpecs false {} arguments
  match sorted.positional with
  | [] => none
  | command :: rest =>
    if (specsOf command).isSome then
      pure { logLevel := sorted.value? "log-level", command, arguments := rest }
    else none

end CallAtlas.Command
