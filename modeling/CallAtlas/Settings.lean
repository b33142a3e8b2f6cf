import CallAtlas.Graph.Resolver
import CallAtlas.Json.Basic
import CallAtlas.Source.Files
import CallAtlas.Text.LetterCase
import CallAtlas.Text.Whole

/-!
Settings.  A value given directly wins over the environment, which wins over the lines of a settings
file; what is not given has a default.
-/

namespace CallAtlas

structure Settings where
  sourceDir : Text := ".codemap/ast"
  logLevel : Text := "WARNING"
  policy : ArityPolicy := .permissive
  maxNodes : Option Int := none
  maxEdges : Option Int := none
  unknownModule : Text := "?"
deriving Repr, DecidableEq, Inhabited

inductive SettingName where
  | sourceDir
  | logLevel
  | policy
  | maxNodes
  | maxEdges
  | unknownModule
deriving Repr, DecidableEq, Inhabited

def SettingName.text : SettingName → String
  | .sourceDir => "source_dir"
  | .logLevel => "log_level"
  | .policy => "arity_matching"
  | .maxNodes => "max_nodes"
  | .maxEdges => "max_edges"
  | .unknownModule => "unknown_module"

/-- Why a value does not fit a setting. -/
inductive Misfit where
  | notPath
  | notText
  | brokenText
  | notPolicy
  | notInteger
  | unreadableInteger
  | oversizedInteger
  | notFinite
  | fractional
  | belowOne
deriving Repr, DecidableEq, Inhabited

namespace Misfit

def code : Misfit → String
  | .notPath => "path_type"
  | .notText => "string_type"
  | .brokenText => "string_unicode"
  | .notPolicy => "enum"
  | .notInteger => "int_type"
  | .unreadableInteger => "int_parsing"
  | .oversizedInteger => "int_parsing_size"
  | .notFinite => "finite_number"
  | .fractional => "int_from_float"
  | .belowOne => "value_error"

def message : Misfit → String
  | .notPath => "Input is not a valid path for <class 'pathlib.Path'>"
  | .notText => "Input should be a valid string"
  | .brokenText =>
    "Input should be a valid string, unable to parse raw data as a unicode string"
  | .notPolicy => "Input should be 'permissive' or 'strict'"
  | .notInteger => "Input should be a valid integer"
  | .unreadableInteger =>
    "Input should be a valid integer, unable to parse string as an integer"
  | .oversizedInteger => "Unable to parse input string as an integer, exceeded maximum size"
  | .notFinite => "Input should be a finite number"
  | .fractional => "Input should be a valid integer, got a number with a fractional part"
  | .belowOne => "Value error, budget must be at least 1"

end Misfit

/-- A setting whose value does not fit, with the value as messages show it and its kind. -/
structure SettingError where
  setting : SettingName
  misfit : Misfit
  shown : String
  kind : String
deriving Repr, DecidableEq, Inhabited

namespace SettingError

/-- The longest beginning of a text that has at most this many bytes. -/
def takeBytes (size : Nat) : List Char → List Char
  | [] => []
  | c :: rest => if c.utf8Size ≤ size then c :: takeBytes (size - c.utf8Size) rest else []

/-- A text of at most fifty bytes; of a longer one, its beginning and its end. -/
def abridged (text : String) : String :=
  let chars := text.toList
  if text.utf8ByteSize ≤ 50 then text
  else String.ofList (takeBytes 25 chars ++ "...".toList ++ (takeBytes 24 chars.reverse).reverse)

/-- The lines that explain an error.  Each kind of misfit has a page below the address `help`. -/
def lines (help : String) (error : SettingError) : List String := [
  error.setting.text,
  "  " ++ error.misfit.message ++ " [type=" ++ error.misfit.code ++ ", input_value="
    ++ abridged error.shown ++ ", input_type=" ++ error.kind ++ "]",
  "    For further information visit " ++ help ++ error.misfit.code]

/-- The text that explains all errors of some settings. -/
def summary (help : String) (errors : List SettingError) : String :=
  "\n".intercalate
    ((toString errors.length
        ++ (if errors.length = 1 then " validation error" else " validation errors")
        ++ " for Settings")
      :: errors.flatMap (lines help))

end SettingError

namespace Settings

/-- The whole number that a number with a fractional part is equal to.  It must lie strictly between
the bounds of 64-bit integers. -/
def wholeOf (value : Decimal) : Except Misfit Int :=
  match value with
  | .finite _ _ _ =>
    match value.whole? with
    | none => .error .fractional
    | some whole =>
      if -Int.pow 2 63 < whole ∧ whole < Int.pow 2 63 then .ok whole
      else .error .oversizedInteger
  | _ => .error .notFinite

/-- The whole number that a data value stands for. -/
def integer : Json → Except Misfit Int
  | .int value => .ok value
  | .bool value => .ok (if value then 1 else 0)
  | .decimal value => wholeOf value
  | .text value =>
    match value.string? with
    | none => .error .brokenText
    | some chars =>
      (Whole.read chars).mapError fun
        | .unreadable => .unreadableInteger
        | .oversized => .oversizedInteger
  | _ => .error .notInteger

/-- What stands before the setting names in the environment. -/
def variableStem : String := "codemap_"

/-- A path in its plain form: no empty components, single dots or slash at the end. -/
def plainPath (text : Text) : Text :=
  let slashes := (text.points.takeWhile (· == .char '/')).length
  let root : Text := if slashes = 2 then "//" else if 0 < slashes then "/" else ""
  let plain := root ++ (Path.ofText text).text
  if plain.isEmpty then "." else plain

def path (value : Json) : Except Misfit Text :=
  match value with
  | .text value => .ok (plainPath value)
  | _ => .error .notPath

def plainText (value : Json) : Except Misfit Text :=
  match value with
  | .text value => .ok value
  | _ => .error .notText

def policyOf? (name : Text) : Option ArityPolicy :=
  if name = "permissive" then some .permissive
  else if name = "strict" then some .strict
  else none

def arityPolicy (value : Json) : Except Misfit ArityPolicy :=
  match value with
  | .text name =>
    match policyOf? name with
    | some policy => .ok policy
    | none => .error .notPolicy
  | _ => .error .notPolicy

/-- A budget: none, or at least one. -/
def budget (value : Json) : Except Misfit (Option Int) :=
  match value with
  | .null => .ok none
  | value =>
    match integer value with
    | .error misfit => .error misfit
    | .ok limit => if limit < 1 then .error .belowOne else .ok (some limit)

/-- Where the values of settings come from, by setting name. -/
structure Given where
  direct : List (Text × Json) := []
  environment : List (Text × Text) := []
  file : List (Text × Option Text) := []
deriving Inhabited

/-- What the last variable of a name was set to; its name may be in any case. -/
def variableValue {α : Type} (name : Text) (pairs : List (Text × α)) : Option α :=
  (pairs.reverse.find? fun (key, _) => key.lowerCase == variableStem ++ name).map Prod.snd

def Given.value? (given : Given) (setting : SettingName) : Option Json :=
  let name : Text := setting.text
  ((Table.find name given.direct).or
    ((variableValue name given.environment).map .text)).or
    ((variableValue name given.file).join.map .text)

/-- Reads one setting, or takes its default. -/
def Given.read {α : Type} (given : Given) (setting : SettingName) (default : α)
    (parse : Json → Except Misfit α) : Except SettingError α :=
  match given.value? setting with
  | none => .ok default
  | some value =>
    (parse value).mapError fun misfit =>
      { setting, misfit, shown := value.toLiteral.render, kind := value.toLiteral.kind }

/-- The error of a reading that failed. -/
def errorOf {α : Type} : Except SettingError α → List SettingError
  | .ok _ => []
  | .error fault => [fault]

/-- The settings from what was given, or every setting whose value does not fit. -/
def ofGiven (given : Given) : Except (List SettingError) Settings :=
  let standard : Settings := {}
  let sourceDir := given.read .sourceDir standard.sourceDir path
  let logLevel := given.read .logLevel standard.logLevel fun value =>
    (plainText value).map Text.upperCase
  let policy := given.read .policy standard.policy arityPolicy
  let maxNodes := given.read .maxNodes standard.maxNodes budget
  let maxEdges := given.read .maxEdges standard.maxEdges budget
  let unknownModule := given.read .unknownModule standard.unknownModule plainText
  match sourceDir, logLevel, policy, maxNodes, maxEdges, unknownModule with
  | .ok sourceDir, .ok logLevel, .ok policy, .ok maxNodes, .ok maxEdges, .ok unknownModule =>
    .ok { sourceDir, logLevel, policy, maxNodes, maxEdges, unknownModule }
  | _, _, _, _, _, _ =>
    .error (errorOf sourceDir ++ errorOf logLevel ++ errorOf policy ++ errorOf maxNodes
      ++ errorOf maxEdges ++ errorOf unknownModule)

def resolver (settings : Settings) : Resolver :=
  { policy := settings.policy, unknownModule := settings.unknownModule }

end Settings

end CallAtlas
