import CallAtlas.Text.Basic

/-!
Splitting command line arguments into options and positional arguments.  An option has a long name and
perhaps a letter; letters can be joined, and the value of an option follows it directly, after an
equals sign, or as the next argument.
-/

namespace CallAtlas.Command

/-- An option: a flag, or a name that takes a value. -/
structure OptionSpec where
  name : String
  letter : Option Char := none
  takesValue : Bool := false
deriving Repr, DecidableEq, Inhabited

/-- Arguments sorted out: the values of options and the flags, the latest first, and the positional
arguments in order. -/
structure Sorted where
  values : List (String × Text) := []
  flags : List String := []
  positional : List Text := []
deriving Repr, DecidableEq, Inhabited

namespace Sorted

/-- The last value given for an option. -/
def value? (sorted : Sorted) (name : String) : Option Text := sorted.values.lookup name

def hasFlag (sorted : Sorted) (name : String) : Bool := sorted.flags.contains name

end Sorted

/-- What a group of letters comes to. -/
inductive Letters where
  | done (sorted : Sorted)
  | awaits (name : String) (sorted : Sorted)
  | unknown
deriving Repr, DecidableEq, Inhabited

/-- Reads joined letters: flags, until a letter that takes the rest, or the next argument, as its
value. -/
def readLetters (specs : List OptionSpec) (sorted : Sorted) : List Point → Letters
  | [] => .done sorted
  | point :: rest =>
    match specs.find? fun spec => spec.letter.map .char == some point with
    | none => .unknown
    | some spec =>
      if spec.takesValue then
        if rest.isEmpty then .awaits spec.name sorted
        else .done { sorted with values := (spec.name, .ofPoints rest) :: sorted.values }
      else readLetters specs { sorted with flags := spec.name :: sorted.flags } rest

/-- Reads a long option, without its dashes. -/
def readLong (specs : List OptionSpec) (sorted : Sorted) (text : List Point) : Letters :=
  let name := Text.ofPoints (text.takeWhile (· ≠ .char '='))
  match specs.find? fun spec => Text.plain spec.name == name with
  | none => .unknown
  | some spec =>
    match text.dropWhile (· ≠ .char '='), spec.takesValue with
    | [], true => .awaits spec.name sorted
    | [], false => .done { sorted with flags := spec.name :: sorted.flags }
    | _ :: value, true =>
      .done { sorted with values := (spec.name, .ofPoints value) :: sorted.values }
    | _ :: _, false => .unknown

/-- Sorts arguments out.  With `mixed`, options may follow positional arguments; otherwise everything
from the first positional argument on is positional.  Nothing for arguments that do not fit. -/
def sortArguments (specs : List OptionSpec) (mixed : Bool) (sorted : Sorted) :
    List Text → Option Sorted
  | [] => some sorted
  | argument :: rest =>
    let outcome : Option Letters :=
      match argument.points with
      | [.char '-', .char '-'] => none
      | .char '-' :: .char '-' :: long => some (readLong specs sorted long)
      | .char '-' :: point :: letters => some (readLetters specs sorted (point :: letters))
      | _ => none
    match outcome with
    | some (.done sorted) => sortArguments specs mixed sorted rest
    | some (.awaits name sorted) =>
      match rest with
      | value :: rest =>
        sortArguments specs mixed { sorted with values := (name, value) :: sorted.values } rest
      | [] => none
    | some .unknown => none
    | none =>
      if argument = "--" then some { sorted with positional := sorted.positional ++ rest }
      else if mixed then
        sortArguments specs mixed { sorted with positional := sorted.positional ++ [argument] } rest
      else some { sorted with positional := sorted.positional ++ argument :: rest }

end CallAtlas.Command
