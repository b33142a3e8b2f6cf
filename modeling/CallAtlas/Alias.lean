import CallAtlas.Table
import CallAtlas.Term.Basic
import CallAtlas.Text.Dotted

/-!
Module aliases.  An alias node lists the segments of a module name; its first segment may be the
current module.  The `alias` statements of a module body give short names to modules.
-/

namespace CallAtlas.Alias

/-- The texts of a list that holds nothing else. -/
def texts? : List Term → Option (List Text)
  | [] => some []
  | .text segment :: rest => (texts? rest).map (segment :: ·)
  | _ :: _ => none

/-- The segments of an alias node.  A leading `__MODULE__` stands for the current module, if there
is one; any other segment that is no text makes the name unreadable. -/
def parts (current : Option Text) : Term → Option (List Text)
  | .tuple [.text form, _, .list (first :: rest)] =>
    if form ≠ "__aliases__" then none
    else
      match first with
      | .text segment => (texts? rest).map (segment :: ·)
      | first =>
        if first.hasForm "__MODULE__" then
          current.bind fun name => (texts? rest).map (Dotted.segments name ++ ·)
        else none
  | _ => none

def textsOf : List Term → List Text
  | [] => []
  | .text segment :: rest => segment :: textsOf rest
  | _ :: rest => textsOf rest

/-- The segments after `__MODULE__`, for `__MODULE__` itself and for an alias that starts with it. -/
def currentSegments : Term → Option (List Text)
  | .tuple [.text form, _, args] =>
    if form = "__MODULE__" then some []
    else if form = "__aliases__" then
      match args with
      | .list (first :: rest) => if first.hasForm "__MODULE__" then some (textsOf rest) else none
      | _ => none
    else none
  | _ => none

/-- The statement inside a block that holds just one. -/
def unwrap : Term → Term
  | .tuple [.text form, info, .list [inner]] =>
    if form = "__block__" then inner else .tuple [.text form, info, .list [inner]]
  | term => term

/-- The name and the module that one grouped item adds. -/
def grouped (front : List Text) (item : Term) : Option (Text × Text) := do
  let own ← parts none item
  let name ← own.getLast?
  pure (name, Dotted.join (front ++ own))

/-- The short names of a group of modules below a common one, such as `Mod.{A, B}`. -/
def ofGroup (current : Option Text) : Term → List (Text × Text)
  | .tuple [.tuple [.text dot, _, .list [front, .text group]], _, .list items] =>
    if dot = "." ∧ group = "\x7b\x7d" then
      match parts current front with
      | some front => items.filterMap (grouped front)
      | none => []
    else []
  | _ => []

/-- The name that the options of an `alias` statement choose. -/
def chosenName (options : Option Term) : Option Text := do
  let options ← options
  let chosen ← parts none (options.keyword "as")
  chosen.getLast?

/-- The short names that a statement introduces, in order: one for `alias Mod` and
`alias Mod, as: Name`, one per item for `alias Mod.{A, B}`. -/
def introduced (current : Option Text) : Term → List (Text × Text)
  | .tuple [.text form, _, .list (first :: rest)] =>
    if form ≠ "alias" then []
    else
      let target := unwrap first
      match parts current target with
      | some own =>
        match (chosenName rest.head?).or own.getLast? with
        | some name => [(name, Dotted.join own)]
        | none => []
      | none => ofGroup current target
  | _ => []

/-- The alias table of a module body: later statements win, a name keeps its first place. -/
def collect (current : Option Text) (statements : List Term) : Table Text Text :=
  Table.ofList (statements.flatMap (introduced current))

end CallAtlas.Alias
