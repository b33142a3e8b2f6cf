import CallAtlas.Json.Basic
import CallAtlas.Term.Basic
import CallAtlas.Text.WriteFault

/-!
Function references: module, function name and arity.
-/

namespace CallAtlas

/-- A function, by its module, name and arity. -/
structure Ref where
  module : Text
  function : Text
  arity : Int
deriving Repr, DecidableEq, Inhabited

inductive RefError where
  | notTriple (value : String)
  | badModule (value : String)
  | badFunction (value : String)
  | badArity (value : String)
deriving Repr, DecidableEq, Inhabited

def RefError.message : RefError → String
  | .notTriple value => "Expected (module, function, arity), got " ++ value
  | .badModule value => "Invalid module: " ++ value
  | .badFunction value => "Invalid function name: " ++ value
  | .badArity value => "Invalid arity: " ++ value

namespace Ref

/-- A reference in words: `Module.function/arity`. -/
def text (ref : Ref) : Text := ref.module ++ "." ++ ref.function ++ "/" ++ toString ref.arity

/-- What keeps a reference from having a text. -/
def textFault? (ref : Ref) : Option WriteFault := WriteFault.ofInt? ref.arity

/-- The text of a value, if it is a text with at least one character. -/
def nonEmpty? : Literal → Option Text
  | .text value => if value.isEmpty then none else some value
  | _ => none

/-- The whole number of a value, if it is one and not negative. -/
def natural? : Literal → Option Int
  | .int value => if value < 0 then none else some value
  | _ => none

/-- The reference made of three values: two texts that are not empty and a whole number from zero on.
The first value that does not fit is named. -/
def ofParts (module function arity : Literal) : Except RefError Ref :=
  match nonEmpty? module with
  | none => .error (.badModule module.render)
  | some module =>
    match nonEmpty? function with
    | none => .error (.badFunction function.render)
    | some function =>
      match natural? arity with
      | none => .error (.badArity arity.render)
      | some arity => .ok ⟨module, function, arity⟩

/-- The reference that a value stands for: it has to be a triple. -/
def ofLiteral : Literal → Except RefError Ref
  | .tuple [module, function, arity] => ofParts module function arity
  | value => .error (.notTriple value.render)

def toJson (ref : Ref) : Json :=
  .object [
    ("module", .text ref.module),
    ("function", .text ref.function),
    ("arity", .int ref.arity),
    ("id", .text ref.text)]

end Ref

end CallAtlas
