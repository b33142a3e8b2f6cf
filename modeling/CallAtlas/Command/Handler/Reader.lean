import CallAtlas.Command.Handler.Grammar
import CallAtlas.Command.Handler.Template
import CallAtlas.Command.Handler.Token
import Std.Data.HashMap

/-!
Reads the tokens of an expression by the grammar.  An expression that does not fit is read once more
with the hints, which may say why.
-/

namespace CallAtlas.Handler

/-- How far a reading is: its place, the furthest token seen, whether hints are tried, and the trees of
the rules that are kept, with the places after them. -/
structure Progress where
  place : Nat := 0
  furthest : Nat := 0
  hints : Bool := false
  kept : Std.HashMap (Rule × Nat) (Option (Tree × Nat)) := {}

/-- How a reading went: something was read; it does not fit, perhaps after a cut; or it failed for
good. -/
inductive Reading (α : Type) where
  | read (value : α) (progress : Progress)
  | missed (isCut : Bool) (progress : Progress)
  | failed (message : String) (progress : Progress)

namespace Progress

def goto (progress : Progress) (place : Nat) : Progress := { progress with place }

def see (progress : Progress) (place : Nat) : Progress :=
  if progress.furthest < place then { progress with furthest := place } else progress

/-- How many brackets are open after the last token. -/
def level (progress : Progress) (tokens : Tokens) : Nat :=
  match tokens.found[progress.place - 1]? with
  | some token => token.level
  | none => 0

/-- Keeps the tree of a rule that was read from a place. -/
def keepTree (progress : Progress) (rule : Rule) (start : Nat) (tree : Option (Tree × Nat)) :
    Progress :=
  { progress with kept := progress.kept.insert (rule, start) tree }

end Progress

/-- What is told where the tokens end. -/
def Ending.message : Ending → String
  | .finished => "invalid syntax"
  | .refused message => message
  | .halted message _ => message

/-- What a token adds to the tree, if a part is such a token. -/
def matched (part : Part) (kind : Kind) : Option (List Tree) :=
  match part, kind with
  | .word wanted, .word found => if found = wanted then some [] else none
  | .mark wanted, .word found => if found = wanted then some [.node .mark found []] else none
  | .name, .name found => some [.node .name found []]
  | .softWord, .name found =>
    if ["_", "case", "match"].any (·.startsWith found) then some [] else none
  | .number, .number isImaginary _ =>
    some [.node (if isImaginary then .imaginary else .number) "" []]
  | .text, .text _ _ => some []
  | .newline, .newline => some []
  | .finish, .finish => some []
  | _, _ => none

/-- Why a number that was found cannot be read. -/
def Kind.numberFault? : Kind → Option String
  | .number _ fault => fault
  | _ => none

def readToken (tokens : Tokens) (part : Part) (progress : Progress) : Reading (List Tree) :=
  let progress := progress.see progress.place
  match tokens.found[progress.place]? with
  | none => .failed tokens.ending.message progress
  | some token =>
    match matched part token.kind, token.kind.numberFault? with
    | some _, some fault => .failed fault progress
    | some trees, none => .read trees (progress.goto (progress.place + 1))
    | none, _ => .missed false progress

def textsFrom (tokens : Tokens) (place : Nat) : List (TextKind × Option String) :=
  ((tokens.found.toList.drop place).map Token.kind).takeWhile isText |>.filterMap textOf
where
  isText : Kind → Bool
    | .text _ _ => true
    | _ => false
  textOf : Kind → Option (TextKind × Option String)
    | .text kind fault => some (kind, fault)
    | _ => none

/-- Why texts cannot stand side by side; `first` is the kind of the first one. -/
def textsFault? (first : TextKind) : List (TextKind × Option String) → Option String
  | [] => none
  | (kind, fault) :: rest =>
    match fault with
    | some fault => some fault
    | none =>
      if kind.isBytes = first.isBytes then textsFault? first rest
      else some "cannot mix bytes and nonbytes literals"

/-- Reads texts side by side.  The token after them is seen, too. -/
def readTexts (tokens : Tokens) (progress : Progress) : Reading (List Tree) :=
  let texts := textsFrom tokens progress.place
  let stop := progress.place + texts.length
  let progress := progress.see stop
  if tokens.found.size ≤ stop then .failed tokens.ending.message progress
  else
    match texts with
    | [] => .missed false progress
    | (first, _) :: _ =>
      match textsFault? first texts with
      | some fault => .failed fault progress
      | none =>
        let form : Form := if texts.any (·.1.isTemplate) then .template else .text
        .read [.node form "" []] (progress.goto stop)

mutual
/-- Reads a rule; `size` bounds the depth of the reading. -/
def readRule (tokens : Tokens) : Nat → Rule → Progress → Reading Tree
  | 0, _, progress => .missed false progress
  | size + 1, rule, progress =>
    let start := progress.place
    match progress.kept[(rule, start)]? with
    | some (some (tree, stop)) => .read tree (progress.goto stop)
    | some none => .missed false progress
    | none =>
      let reading :=
        match rule.shape with
        | .choice alternatives => readChoice tokens size alternatives [] start progress
        | .plainly alternatives =>
          let hints := progress.hints
          match readChoice tokens size alternatives [] start { progress with hints := false } with
          | .read tree progress => .read tree { progress with hints }
          | .missed isCut progress => .missed isCut { progress with hints }
          | .failed message progress => .failed message progress
        | .chain first links =>
          match readParts tokens size first [] progress with
          | .read [tree] progress => readLinks tokens size links tree progress
          | .read _ progress => .missed false progress
          | .missed isCut progress => .missed isCut progress
          | .failed message progress => .failed message progress
      match reading with
      | .read tree progress =>
        if rule.isKept then
          let stop := progress.place
          .read tree (progress.keepTree rule start (some (tree, stop)))
        else .read tree progress
      | .missed _ progress =>
        let progress := progress.goto start
        .missed false (if rule.isKept then progress.keepTree rule start none else progress)
      | .failed message progress => .failed message progress

/-- Reads the first alternative that fits from a place on, after trees that were read before. -/
def readChoice (tokens : Tokens) :
    Nat → List Alternative → List Tree → Nat → Progress → Reading Tree
  | 0, _, _, _, progress => .missed false progress
  | _ + 1, [], _, _, progress => .missed false progress
  | size + 1, alternative :: rest, before, start, progress =>
    if alternative.isHint && !progress.hints then
      readChoice tokens size rest before start progress
    else
      match readParts tokens size alternative.parts [] (progress.goto start) with
      | .failed message progress => .failed message progress
      | .missed true progress => .missed true progress
      | .missed false progress => readChoice tokens size rest before start progress
      | .read trees progress =>
        match alternative.make (progress.level tokens) (before ++ trees) with
        | .tree tree => .read tree progress
        | .nothing => .missed true progress
        | .fault message => .failed message progress

def readLinks (tokens : Tokens) : Nat → List Alternative → Tree → Progress → Reading Tree
  | 0, _, tree, progress => .read tree progress
  | size + 1, links, tree, progress =>
    let start := progress.place
    match readChoice tokens size links [tree] start progress with
    | .read tree progress => readLinks tokens size links tree progress
    | .missed _ progress => .read tree (progress.goto start)
    | .failed message progress => .failed message progress

/-- Reads parts in order, after trees that were read before, the last one first. -/
def readParts (tokens : Tokens) : Nat → List Part → List Tree → Progress → Reading (List Tree)
  | 0, _, _, progress => .missed false progress
  | _ + 1, [], trees, progress => .read trees.reverse progress
  | size + 1, part :: rest, trees, progress =>
    match part with
    | .rule rule =>
      match readRule tokens size rule progress with
      | .read tree progress => readParts tokens size rest (tree :: trees) progress
      | .missed _ progress => .missed false progress
      | .failed message progress => .failed message progress
    | .cut =>
      match readParts tokens size rest trees progress with
      | .missed _ progress => .missed true progress
      | reading => reading
    | part =>
      match readPart tokens size part progress with
      | .read found progress => readParts tokens size rest (found.reverse ++ trees) progress
      | .missed _ progress => .missed false progress
      | .failed message progress => .failed message progress

def readPart (tokens : Tokens) : Nat → Part → Progress → Reading (List Tree)
  | 0, _, progress => .missed false progress
  | size + 1, part, progress =>
    let start := progress.place
    match part with
    | .texts => readTexts tokens progress
    | .optional parts =>
      match readParts tokens size parts [] progress with
      | .missed _ progress => .read [] (progress.goto start)
      | reading => reading
    | .many parts => readMany tokens size parts parts [] progress
    | .several parts =>
      match readParts tokens size parts [] progress with
      | .read found progress => readMany tokens size parts parts found.reverse progress
      | reading => reading
    | .separated parts =>
      match readParts tokens size parts [] progress with
      | .read found progress => readMany tokens size parts (.word "," :: parts) found.reverse progress
      | reading => reading
    | .oneOf choices => readOneOf tokens size choices start progress
    | .ahead choices =>
      match readOneOf tokens size choices start progress with
      | .read _ progress => .read [] (progress.goto start)
      | reading => reading
    | .notAhead choices =>
      match readOneOf tokens size choices start progress with
      | .read _ progress => .missed false (progress.goto start)
      | .missed _ progress => .read [] (progress.goto start)
      | .failed message progress => .failed message progress
    | part => readToken tokens part progress

/-- Reads the first of some lists of parts that fits. -/
def readOneOf (tokens : Tokens) :
    Nat → List (List Part) → Nat → Progress → Reading (List Tree)
  | 0, _, _, progress => .missed false progress
  | _ + 1, [], _, progress => .missed false progress
  | size + 1, parts :: rest, start, progress =>
    match readParts tokens size parts [] (progress.goto start) with
    | .missed _ progress => readOneOf tokens size rest start progress
    | reading => reading

/-- Reads parts as often as they fit, after trees that were read before, the last one first. -/
def readMany (tokens : Tokens) :
    Nat → List Part → List Part → List Tree → Progress → Reading (List Tree)
  | 0, _, _, trees, progress => .read trees.reverse progress
  | size + 1, _, parts, trees, progress =>
    let start := progress.place
    match readParts tokens size parts [] progress with
    | .read found progress => readMany tokens size parts parts (found.reverse ++ trees) progress
    | .missed _ progress => .read trees.reverse (progress.goto start)
    | .failed message progress => .failed message progress
end

/-- What is told of a reading that stopped at a token.  What is no token, and a bracket that stays open
on a line before, count more than the reason. -/
def Tokens.outranked (tokens : Tokens) (message : String) (token : Token) : String :=
  match tokens.ending with
  | .refused fault => fault
  | .halted _ (some bracket) =>
    if bracket.line < token.line then bracket.openMessage else message
  | .halted _ none => message
  | .finished => message

/-- What is told of a reading that failed for a reason.  It stands if the end of the text was met. -/
def Tokens.report (tokens : Tokens) (message : String) (furthest : Nat) : String :=
  match tokens.found[furthest]? with
  | some token => if token.meetsEnd then message else tokens.outranked message token
  | none => message

/-- What is told of a reading that does not fit; `stopped` is the furthest token seen without hints. -/
def Tokens.complain (tokens : Tokens) (stopped furthest : Nat) : String :=
  match (tokens.found[stopped]?).map Token.kind, tokens.found[furthest]? with
  | some .indent, _ => "unexpected indent"
  | some .dedent, _ => "unexpected unindent"
  | _, some token => tokens.outranked "invalid syntax" token
  | _, none => "invalid syntax"

/-- How deep a reading of tokens goes at most. -/
def Tokens.depth (tokens : Tokens) : Nat := 1000 * (tokens.found.size + 2)

/-- The tree of a rule, or why it has none. -/
def Tokens.read (tokens : Tokens) (rule : Rule) : Except String Tree :=
  match readRule tokens tokens.depth rule {} with
  | .read tree _ => .ok tree
  | .failed message progress => .error (tokens.report message progress.furthest)
  | .missed _ first =>
    match readRule tokens tokens.depth rule { furthest := first.furthest, hints := true } with
    | .failed message progress => .error (tokens.report message progress.furthest)
    | .read _ progress | .missed _ progress =>
      .error (tokens.complain first.furthest progress.furthest)

/-- Why an expression in a template cannot be read.  It is read in parentheses, from its line on. -/
def fieldFault? (template : Nat → TextKind → List Char → Option String) (line : Nat)
    (expression : List Char) : Option String :=
  let tokens := tokensFrom template line ('(' :: expression ++ [')', '\n'])
  match tokens.read .starExpressions, tokens.ending with
  | .ok _, _ => none
  | .error message, .refused _ => some message
  | .error message, _ => some ("f-string: " ++ message)

/-- Why a template that starts on a line cannot be read; `size` bounds how deep templates nest. -/
def templateFault? : Nat → Nat → TextKind → List Char → Option String
  | 0, _, _, _ => none
  | size + 1, line, kind, content =>
    let last := line + content.count '\n'
    Template.fault?
      (fun expression text => fieldFault? (templateFault? size) (last - text.count '\n') expression)
      kind content

def readExpression (text : List Char) : Except String Tree :=
  let text := unixLines text
  (tokensFrom (templateFault? text.length) 1 text).read .whole

end CallAtlas.Handler
