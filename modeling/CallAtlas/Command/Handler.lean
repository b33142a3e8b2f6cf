import CallAtlas.Command.Handler.Reader

/-!
Parameters of handler tags, such as `f(1, 'a')` in `[@press=f(1, 'a')]`.  They are an expression that
stands for a value; if they are not, a message says why.
-/

namespace CallAtlas.Handler

/-- Why parameters cannot be read: they are no expression, or it stands for no value. -/
inductive Fault where
  | expression (message : String)
  | value (message : String)
deriving Repr, DecidableEq, Inhabited

/-- Why a text is no expression that stands for a value. -/
def fault? (text : List Char) : Option Fault :=
  if text.contains '\x00' then some (.expression "source code string cannot contain null bytes")
  else
    match readExpression text with
    | .error message => some (.expression message)
    | .ok tree =>
      match tree.verdict with
      | .fault message => some (.value message)
      | .value _ | .unclear => none

/-- The expression in the parameters of a handler: after a name only what stands in parentheses
counts. -/
def expressionOf (parameters : List Point) : List Point :=
  let isNamePart (point : Point) : Bool := point.passes fun c => Word.isPart c || c == '.'
  match parameters.dropWhile isNamePart with
  | [] => [.char '(', .char ')']
  | .char '(' :: rest =>
    if rest.getLast? = some (.char ')') && !rest.contains (.char '\n') then .char '(' :: rest
    else parameters
  | _ => parameters

end CallAtlas.Handler
