import CallAtlas.Command.Handler.Tree

/-!
The grammar of expressions.  Besides the rules for what is well formed there are rules for common
mistakes, called hints.  A hint names the mistake instead of giving a tree.
-/

namespace CallAtlas.Handler

/-- The rules of the grammar. -/
inductive Rule where
  | whole
  | expressions
  | expression
  | plainExpression
  | sideBySide
  | command
  | yielding
  | starExpressions
  | starExpression
  | starItems
  | starItem
  | assignment
  | namedExpression
  | misnamed
  | disjunction
  | conjunction
  | inversion
  | comparison
  | bitOr
  | bitXor
  | bitAnd
  | shift
  | sum
  | term
  | factor
  | power
  | awaiting
  | primary
  | atom
  | group
  | badGroup
  | function
  | parameters
  | goodParameters
  | badParameters
  | slashPlain
  | slashDefault
  | starTail
  | badStarTail
  | keywordTail
  | badKeywordTail
  | plainParameter
  | defaultParameter
  | anyParameter
  | fallback
  | badFallback
  | tuple
  | set
  | dict
  | pairs
  | pair
  | keyValue
  | badPairs
  | badKeyValue
  | clauses
  | clause
  | badTarget
  | setComprehension
  | dictComprehension
  | generator
  | badComprehension
  | badDictComprehension
  | arguments
  | argumentList
  | keywordList
  | keywordOrStarred
  | keywordOrSpread
  | starred
  | badArguments
  | badKeyword
  | targets
  | target
  | targetAtom
  | targetGroup
  | targetItems
  | targetPrimary
deriving Repr, DecidableEq, Hashable, Inhabited

/-- A part of a rule.  `word` is a keyword or symbol, which `mark` also takes into the tree; `texts` are
texts side by side; `softWord` is a name that starts a word with a meaning elsewhere; `cut` rules out
the later alternatives of its rule. -/
inductive Part where
  | word (text : String)
  | mark (text : String)
  | name
  | softWord
  | number
  | text
  | texts
  | newline
  | finish
  | rule (rule : Rule)
  | optional (parts : List Part)
  | many (parts : List Part)
  | several (parts : List Part)
  | separated (parts : List Part)
  | oneOf (choices : List (List Part))
  | ahead (choices : List (List Part))
  | notAhead (choices : List (List Part))
  | cut
deriving Inhabited

instance : Coe String Part := ⟨.word⟩

/-- What an alternative makes of its parts. -/
inductive Made where
  | tree (tree : Tree)
  | nothing
  | fault (message : String)
deriving Inhabited

/-- How an alternative makes a tree of its parts; it also sees how many brackets are open after them. -/
abbrev Maker := Nat → List Tree → Made

/-- Parts in order, and what is made of them. -/
structure Alternative where
  parts : List Part
  make : Maker
  isHint : Bool := false
deriving Inhabited

/-- How a rule is read: by its first alternative that fits; by a start and any number of links, each
with the tree so far; or by alternatives with the hints switched off. -/
inductive Shape where
  | choice (alternatives : List Alternative)
  | chain (start : List Part) (links : List Alternative)
  | plainly (alternatives : List Alternative)
deriving Inhabited

/-- The tree of the only part. -/
def keep : Maker := fun _ items =>
  match items with
  | [item] => .tree item
  | _ => .nothing

/-- A tree of all parts with a text of its own. -/
def buildWith (form : Form) (text : String) : Maker := fun _ items =>
  .tree (.node form text (items.flatMap Tree.flat))

/-- A tree of all parts. -/
def build (form : Form) : Maker := buildWith form ""

def refuse (message : String) : Maker := fun _ _ => .fault message

/-- A mistake whose message says what the first part is called. -/
def refuseTitle (before after : String) : Maker := fun _ items =>
  match items with
  | item :: _ => .fault (before ++ item.title ++ after)
  | [] => .nothing

def only (rule : Rule) : Alternative := ⟨[.rule rule], keep, false⟩

def hint (rule : Rule) : Alternative := ⟨[.rule rule], keep, true⟩

def operator (text : String) (right : Rule) : Alternative :=
  ⟨[text, .rule right], buildWith .binary text, false⟩

def signed (text : String) (operand : Rule) : Alternative :=
  ⟨[text, .rule operand], buildWith .unary text, false⟩

def constant (text : String) : Alternative := ⟨[text], buildWith .constant text, false⟩

/-- Items with commas between them: at least one comma, perhaps one at the end. -/
def tupleOf (item : Rule) : List Alternative := [
  ⟨[.rule item, .several [",", .rule item], .optional [","]], build .tuple, false⟩,
  ⟨[.rule item, ","], build .tuple, false⟩,
  only item]

/-- A parameter, which ends with a comma or before the colon. -/
def endParameter (parts : List Part) : List Alternative := [
  ⟨parts ++ [.word ","], build .list, false⟩,
  ⟨parts ++ [.ahead [[":"]]], build .list, false⟩]

/-- What is said of an equals sign that was meant to compare. -/
def comparesText : String := "invalid syntax. Maybe you meant '==' or ':=' instead of '='?"

/-- What is said of a generator among other arguments. -/
def generatorText : String := "Generator expression must be parenthesized"

/-- What is said of a starred value in a dictionary. -/
def starredValueText : String := "cannot use a starred expression in a dictionary value"

def missingValueText : String := "expression expected after dictionary key and ':'"

/-- What is said of a loop after items without parentheses. -/
def forgottenText : String := "did you forget parentheses around the comprehension target?"

def noSecondEquals : Part := .notAhead [["="], [":="]]

def endOfPair : Part := .ahead [["\x7d"], [","]]

/-- More of a target follows. -/
def goesOn : Part := .ahead [["("], ["."]]

def loop : List Part :=
  ["for", .rule .targets, "in", .cut, .rule .disjunction, .many ["if", .rule .disjunction]]

/-- An assignment, or an expression that starts none. -/
def unassigned : List (List Part) :=
  [[.rule .assignment], [.rule .expression, .notAhead [[":="]]]]

/-- Two expressions side by side in brackets. -/
def sideBySideMade : Maker := fun level items =>
  match items with
  | item :: _ =>
    if item.isCommand || level = 0 then .nothing
    else .fault "invalid syntax. Perhaps you forgot a comma?"
  | [] => .nothing

/-- A word before an expression. -/
def commandMade : Maker := fun _ items =>
  match items with
  | item :: _ =>
    if item.isCommand then
      .fault ("Missing parentheses in call to '" ++ item.text ++ "'. Did you mean " ++ item.text
        ++ "(...)?")
    else .nothing
  | [] => .nothing

/-- A comparison: its first operator and what stands before it. -/
def comparisonMade : Maker := fun _ items =>
  match items with
  | left :: operator :: _ => .tree (.node .comparison operator.text [left])
  | _ => .nothing

/-- The target of a loop that nothing can be assigned to. -/
def targetMade : Maker := fun _ items =>
  match items with
  | [item] =>
    match item.badTarget? with
    | some part => .fault ("cannot assign to " ++ part.title)
    | none => .nothing
  | _ => .nothing

def isPositional (argument : Tree) : Bool :=
  argument.form != .keyword && argument.form != .spread

/-- A loop after more than one argument. -/
def looseLoopMade : Maker := fun _ items =>
  match items with
  | arguments :: _ =>
    if ((arguments.flat.filter isPositional).length ≤ 1 : Bool) then .nothing
    else .fault generatorText
  | [] => .nothing

/-- An argument without a name after one with a name. -/
def lateArgumentMade : Maker := fun _ items =>
  match items with
  | arguments :: _ =>
    if arguments.flat.any (·.form == .spread) then
      .fault "positional argument follows keyword argument unpacking"
    else .fault "positional argument follows keyword argument"
  | [] => .nothing

/-- Names a constant that nothing can be assigned to. -/
def constantMade : Maker := fun _ items =>
  match items with
  | item :: _ => .fault ("cannot assign to " ++ item.text)
  | [] => .nothing

def Rule.shape : Rule → Shape
  | .whole =>
    .choice [⟨[.rule .expressions, .many [.newline], .finish], keep, false⟩]
  | .expressions => .choice (tupleOf .expression)
  | .expression => .choice [
      hint .sideBySide,
      hint .command,
      ⟨[.rule .disjunction, "if", .rule .disjunction, "else", .rule .expression],
        build .conditional, false⟩,
      only .disjunction,
      only .function]
  | .plainExpression => .plainly [
      ⟨[.rule .disjunction, "if", .rule .disjunction, "else", .rule .expression],
        build .conditional, false⟩,
      only .disjunction,
      only .function]
  | .sideBySide => .choice [
      ⟨[.notAhead [[.name, .text], [.softWord]], .rule .disjunction, .rule .plainExpression],
        sideBySideMade, false⟩,
      ⟨[.rule .disjunction, "if", .rule .disjunction, .notAhead [["else"], [":"]]],
        refuse "expected 'else' after 'if' expression", false⟩]
  | .command => .choice [
      ⟨[.name, .notAhead [["("]], .rule .starExpressions], commandMade, false⟩]
  | .yielding => .choice [
      ⟨["yield", "from", .rule .expression], build .yielded, false⟩,
      ⟨["yield", .optional [.rule .starExpressions]], build .yielded, false⟩]
  | .starExpressions => .choice (tupleOf .starExpression)
  | .starExpression => .choice [
      ⟨["*", .rule .bitOr], build .starred, false⟩,
      only .expression]
  | .starItems => .choice [⟨[.separated [.rule .starItem], .optional [","]], build .list, false⟩]
  | .starItem => .choice [
      ⟨["*", .rule .bitOr], build .starred, false⟩,
      only .namedExpression]
  | .assignment => .choice [⟨[.name, ":=", .cut, .rule .expression], build .named, false⟩]
  | .namedExpression => .choice [
      only .assignment,
      hint .misnamed,
      ⟨[.rule .expression, .notAhead [[":="]]], keep, false⟩]
  | .misnamed => .choice [
      ⟨[.rule .expression, ":=", .rule .expression],
        refuseTitle "cannot use assignment expressions with " "", false⟩,
      ⟨[.name, "=", .rule .bitOr, noSecondEquals], refuse comparesText, false⟩,
      ⟨[.notAhead [[.rule .tuple], [.rule .generator], ["True"], ["None"], ["False"]], .rule .bitOr,
          "=", .rule .bitOr, noSecondEquals],
        refuseTitle "cannot assign to " " here. Maybe you meant '==' instead of '='?", false⟩]
  | .disjunction => .choice [
      ⟨[.rule .conjunction, .several ["or", .rule .conjunction]], build .boolean, false⟩,
      only .conjunction]
  | .conjunction => .choice [
      ⟨[.rule .inversion, .several ["and", .rule .inversion]], build .boolean, false⟩,
      only .inversion]
  | .inversion => .choice [signed "not" .inversion, only .comparison]
  | .comparison => .choice [
      ⟨[.rule .bitOr, .several [.oneOf [
          [.mark "==", .rule .bitOr], [.mark "!=", .rule .bitOr], [.mark "<=", .rule .bitOr],
          [.mark "<", .rule .bitOr], [.mark ">=", .rule .bitOr], [.mark ">", .rule .bitOr],
          [.mark "not", "in", .rule .bitOr], [.mark "in", .rule .bitOr],
          [.mark "is", "not", .rule .bitOr], [.mark "is", .rule .bitOr]]]],
        comparisonMade, false⟩,
      only .bitOr]
  | .bitOr => .chain [.rule .bitXor] [operator "|" .bitXor]
  | .bitXor => .chain [.rule .bitAnd] [operator "^" .bitAnd]
  | .bitAnd => .chain [.rule .shift] [operator "&" .shift]
  | .shift => .chain [.rule .sum] [operator "<<" .sum, operator ">>" .sum]
  | .sum => .chain [.rule .term] [operator "+" .term, operator "-" .term]
  | .term => .chain [.rule .factor] [
      operator "*" .factor, operator "/" .factor, operator "//" .factor, operator "%" .factor,
      operator "@" .factor]
  | .factor => .choice [
      signed "+" .factor, signed "-" .factor, signed "~" .factor, only .power]
  | .power => .choice [
      ⟨[.rule .awaiting, "**", .rule .factor], buildWith .binary "**", false⟩,
      only .awaiting]
  | .awaiting => .choice [⟨["await", .rule .primary], build .awaited, false⟩, only .primary]
  | .primary => .chain [.rule .atom] [
      ⟨[".", .name], build .attribute, false⟩,
      ⟨[.rule .generator], build .call, false⟩,
      ⟨["(", .optional [.rule .arguments], ")"], build .call, false⟩]
  | .atom => .choice [
      ⟨[.name], keep, false⟩,
      constant "True",
      constant "False",
      constant "None",
      ⟨[.ahead [[.text]], .texts], keep, false⟩,
      ⟨[.number], keep, false⟩,
      ⟨[.ahead [["("]], .oneOf [[.rule .tuple], [.rule .group], [.rule .generator]]], keep, false⟩,
      ⟨[.ahead [["\x7b"]],
          .oneOf [[.rule .dict], [.rule .set], [.rule .dictComprehension],
            [.rule .setComprehension]]],
        keep, false⟩,
      ⟨["..."], build .ellipsis, false⟩]
  | .group => .choice [
      ⟨["(", .oneOf [[.rule .yielding], [.rule .namedExpression]], ")"], keep, false⟩,
      hint .badGroup]
  | .badGroup => .choice [
      ⟨["(", .rule .starred, ")"], refuse "cannot use starred expression here", false⟩,
      ⟨["(", "**", .rule .expression, ")"],
        refuse "cannot use double starred expression here", false⟩]
  | .function => .choice [
      ⟨["lambda", .optional [.rule .parameters], ":", .rule .expression], build .function, false⟩]
  | .parameters => .choice [hint .badParameters, only .goodParameters]
  | .goodParameters => .choice [
      ⟨[.rule .slashPlain, .many [.rule .plainParameter], .many [.rule .defaultParameter],
          .optional [.rule .starTail]],
        build .list, false⟩,
      ⟨[.rule .slashDefault, .many [.rule .defaultParameter], .optional [.rule .starTail]],
        build .list, false⟩,
      ⟨[.several [.rule .plainParameter], .many [.rule .defaultParameter],
          .optional [.rule .starTail]],
        build .list, false⟩,
      ⟨[.several [.rule .defaultParameter], .optional [.rule .starTail]], build .list, false⟩,
      only .starTail]
  | .badParameters => .choice [
      ⟨[.many [.rule .plainParameter],
          .oneOf [[.rule .slashDefault], [.several [.rule .defaultParameter]]],
          .rule .plainParameter],
        refuse "non-default argument follows default argument", false⟩,
      ⟨[.many [.rule .plainParameter], "(", .separated [.name], .optional [","], ")"],
        refuse "Lambda expression parameters cannot be parenthesized", false⟩,
      ⟨["/", ","], refuse "at least one argument must precede /", false⟩,
      ⟨[.oneOf [[.rule .slashPlain], [.rule .slashDefault]], .many [.rule .anyParameter], "/"],
        refuse "/ may appear only once", false⟩,
      ⟨[.optional [.oneOf [[.rule .slashPlain], [.rule .slashDefault]]],
          .many [.rule .anyParameter], "*", .oneOf [[","], [.rule .plainParameter]],
          .many [.rule .anyParameter], "/"],
        refuse "/ must be ahead of *", false⟩,
      ⟨[.several [.rule .anyParameter], "/", "*"],
        refuse "expected comma between / and *", false⟩]
  | .slashPlain => .choice (endParameter [.several [.rule .plainParameter], "/"])
  | .slashDefault =>
    .choice (endParameter
      [.many [.rule .plainParameter], .several [.rule .defaultParameter], "/"])
  | .starTail => .choice [
      hint .badStarTail,
      ⟨["*", .rule .plainParameter, .many [.rule .anyParameter], .optional [.rule .keywordTail]],
        build .list, false⟩,
      ⟨["*", ",", .several [.rule .anyParameter], .optional [.rule .keywordTail]],
        build .list, false⟩,
      only .keywordTail]
  | .badStarTail => .choice [
      ⟨["*", .oneOf [[":"], [",", .oneOf [[":"], ["**"]]]]],
        refuse "named arguments must follow bare *", false⟩,
      ⟨["*", .name, "="], refuse "var-positional argument cannot have default value", false⟩,
      ⟨["*", .oneOf [[.rule .plainParameter], [","]], .many [.rule .anyParameter], "*",
          .oneOf [[.rule .plainParameter], [","]]],
        refuse "* argument may appear only once", false⟩]
  | .keywordTail => .choice [
      hint .badKeywordTail,
      ⟨["**", .rule .plainParameter], build .list, false⟩]
  | .badKeywordTail => .choice [
      ⟨["**", .name, "="], refuse "var-keyword argument cannot have default value", false⟩,
      ⟨["**", .name, ",", .name], refuse "arguments cannot follow var-keyword argument", false⟩,
      ⟨["**", .name, ",", .oneOf [["*"], ["**"], ["/"]]],
        refuse "arguments cannot follow var-keyword argument", false⟩]
  | .plainParameter => .choice (endParameter [.name])
  | .defaultParameter => .choice (endParameter [.name, .rule .fallback])
  | .anyParameter => .choice (endParameter [.name, .optional [.rule .fallback]])
  | .fallback => .choice [⟨["=", .rule .expression], keep, false⟩, hint .badFallback]
  | .badFallback => .choice [
      ⟨["=", .ahead [[")"], [","]]], refuse "expected default value expression", false⟩]
  | .tuple => .choice [
      ⟨["(", .optional [.rule .starItem, ",", .optional [.rule .starItems]], ")"],
        build .tuple, false⟩]
  | .set => .choice [⟨["\x7b", .rule .starItems, "\x7d"], build .set, false⟩]
  | .dict => .choice [
      ⟨["\x7b", .optional [.rule .pairs], "\x7d"], build .dict, false⟩,
      ⟨["\x7b", .rule .badPairs, "\x7d"], keep, false⟩]
  | .pairs => .choice [⟨[.separated [.rule .pair], .optional [","]], build .list, false⟩]
  | .pair => .choice [⟨["**", .rule .bitOr], build .unpacking, false⟩, only .keyValue]
  | .keyValue => .choice [⟨[.rule .expression, ":", .rule .expression], build .pair, false⟩]
  | .badPairs => .choice [
      ⟨[.separated [.rule .pair], ",", .rule .badKeyValue], build .list, false⟩,
      ⟨[.rule .expression, ":", "*", .rule .bitOr], refuse starredValueText, false⟩,
      ⟨[.rule .expression, ":", endOfPair], refuse missingValueText, false⟩]
  | .badKeyValue => .choice [
      ⟨[.rule .expression, .notAhead [[":"]]], refuse "':' expected after dictionary key", false⟩,
      ⟨[.rule .expression, ":", "*", .rule .bitOr], refuse starredValueText, false⟩,
      ⟨[.rule .expression, ":", endOfPair], refuse missingValueText, false⟩]
  | .clauses => .choice [⟨[.several [.rule .clause]], build .list, false⟩]
  | .clause => .choice [
      ⟨"async" :: loop, build .list, false⟩,
      ⟨loop, build .list, false⟩,
      hint .badTarget]
  | .badTarget => .choice [
      ⟨[.optional ["async"], "for", .rule .starExpressions], targetMade, false⟩]
  | .setComprehension => .choice [
      ⟨["\x7b", .rule .namedExpression, .rule .clauses, "\x7d"], build .setComprehension, false⟩,
      hint .badComprehension]
  | .dictComprehension => .choice [
      ⟨["\x7b", .rule .keyValue, .rule .clauses, "\x7d"], build .dictComprehension, false⟩,
      hint .badDictComprehension]
  | .generator => .choice [
      ⟨["(", .oneOf unassigned, .rule .clauses, ")"], build .generator, false⟩,
      hint .badComprehension]
  | .badComprehension => .choice [
      ⟨[.oneOf [["("], ["\x7b"]], .rule .starred, .rule .clauses],
        refuse "iterable unpacking cannot be used in comprehension", false⟩,
      ⟨["\x7b", .rule .starItem, ",", .rule .starItems, .rule .clauses],
        refuse forgottenText, false⟩,
      ⟨["\x7b", .rule .starItem, ",", .rule .clauses], refuse forgottenText, false⟩]
  | .badDictComprehension => .choice [
      ⟨["\x7b", "**", .rule .bitOr, .rule .clauses, "\x7d"],
        refuse "dict unpacking cannot be used in dict comprehension", false⟩]
  | .arguments => .choice [
      ⟨[.rule .argumentList, .optional [","], .ahead [[")"]]], keep, false⟩,
      hint .badArguments]
  | .argumentList => .choice [
      ⟨[.separated [.oneOf [[.rule .starred], [.oneOf unassigned, .notAhead [["="]]]]],
          .optional [",", .rule .keywordList]],
        build .list, false⟩,
      only .keywordList]
  | .keywordList => .choice [
      ⟨[.separated [.rule .keywordOrStarred], ",", .separated [.rule .keywordOrSpread]],
        build .list, false⟩,
      ⟨[.separated [.rule .keywordOrStarred]], build .list, false⟩,
      ⟨[.separated [.rule .keywordOrSpread]], build .list, false⟩]
  | .keywordOrStarred => .choice [
      hint .badKeyword,
      ⟨[.name, "=", .rule .expression], build .keyword, false⟩,
      only .starred]
  | .keywordOrSpread => .choice [
      hint .badKeyword,
      ⟨[.name, "=", .rule .expression], build .keyword, false⟩,
      ⟨["**", .rule .expression], build .spread, false⟩]
  | .starred => .choice [
      ⟨["*", .rule .expression], build .starred, false⟩,
      ⟨["*"], refuse "Invalid star expression", false⟩]
  | .badArguments => .choice [
      ⟨[.rule .argumentList, ",", "*"],
        refuse "iterable argument unpacking follows keyword argument unpacking", false⟩,
      ⟨[.rule .expression, .rule .clauses, ",",
          .optional [.oneOf [[.rule .argumentList], [.rule .expression, .rule .clauses]]]],
        refuse generatorText, false⟩,
      ⟨[.name, "=", .rule .expression, .rule .clauses], refuse comparesText, false⟩,
      ⟨[.rule .argumentList, .rule .clauses], looseLoopMade, false⟩,
      ⟨[.rule .argumentList, ",", .rule .expression, .rule .clauses], refuse generatorText, false⟩,
      ⟨[.rule .argumentList, ",", .rule .argumentList], lateArgumentMade, false⟩]
  | .badKeyword => .choice [
      ⟨[.oneOf [[.mark "True"], [.mark "False"], [.mark "None"]], "="], constantMade, false⟩,
      ⟨[.name, "=", .rule .expression, .rule .clauses], refuse comparesText, false⟩,
      ⟨[.notAhead [[.name, "="]], .rule .expression, "="],
        refuse "expression cannot contain assignment, perhaps you meant \"==\"?", false⟩]
  | .targets => .choice [
      ⟨[.rule .target, .notAhead [[","]]], keep, false⟩,
      ⟨[.rule .target, .many [",", .rule .target], .optional [","]], build .tuple, false⟩]
  | .target => .choice [
      ⟨["*", .notAhead [["*"]], .rule .target], build .starred, false⟩,
      only .targetAtom]
  | .targetAtom => .choice [
      ⟨[.rule .targetPrimary, ".", .name, .notAhead [["("], ["."]]], build .attribute, false⟩,
      only .targetGroup]
  | .targetGroup => .choice [
      ⟨[.name], keep, false⟩,
      ⟨["(", .rule .targetAtom, ")"], keep, false⟩,
      ⟨["(", .optional [.rule .targetItems], ")"], build .tuple, false⟩]
  | .targetItems => .choice [
      ⟨[.rule .target, .several [",", .rule .target], .optional [","]], build .list, false⟩,
      ⟨[.rule .target, ","], build .list, false⟩]
  | .targetPrimary => .chain [.rule .atom, goesOn] [
      ⟨[".", .name, goesOn], build .attribute, false⟩,
      ⟨[.rule .generator, goesOn], build .call, false⟩,
      ⟨["(", .optional [.rule .arguments], ")", goesOn], build .call, false⟩]

/-- Whether the tree of a rule at a place is kept, so that it is read there only once. -/
def Rule.isKept : Rule → Bool
  | .expression | .starExpression | .misnamed | .disjunction | .conjunction | .inversion | .bitOr
  | .bitXor | .bitAnd | .shift | .sum | .term | .factor | .awaiting | .primary | .arguments | .target
  | .targetAtom | .targetPrimary => true
  | _ => false

end CallAtlas.Handler
