import CallAtlas.Command.Handler.Literal

/-!
Templates: texts with expressions in braces.  Each expression may be followed by a conversion and by a
format, which is a template, too.
-/

namespace CallAtlas.Handler.Template

/-- A part of a template: text up to a brace or the end, whether that brace is doubled, and what
follows. -/
structure Plain where
  text : List Char
  isDoubled : Bool
  rest : List Char
deriving Repr, DecidableEq, Inhabited

/-- Ends plain text at a brace.  Only outside formats a doubled brace stands for itself and a closing
one must be doubled. -/
def Plain.atBrace (level : Nat) (held : List Char) (brace : Char) (rest : List Char) :
    Except String Plain :=
  if level = 0 && rest.head? == some brace then .ok ⟨(brace :: held).reverse, true, rest.drop 1⟩
  else if level = 0 && brace == '\x7d' then .error "f-string: single '\x7d' is not allowed"
  else .ok ⟨held.reverse, false, brace :: rest⟩

/-- Reads plain text after what is held, the last character first.  The name of a character may stand
in braces; `size` bounds the length of the text. -/
def Plain.read (isRaw : Bool) (level : Nat) : Nat → List Char → List Char → Except String Plain
  | 0, held, text => .ok ⟨held.reverse, false, text⟩
  | _ + 1, held, [] => .ok ⟨held.reverse, false, []⟩
  | size + 1, held, c :: rest =>
    if c = '\\' && !isRaw then
      match rest with
      | 'N' :: '\x7b' :: rest =>
        let name := rest.takeWhile (· ≠ '\x7d')
        let close := (rest.drop name.length).take 1
        read isRaw level size (close.reverse ++ name.reverse ++ '\x7b' :: 'N' :: '\\' :: held)
          (rest.drop (name.length + 1))
      | 'N' :: next :: rest => read isRaw level size (next :: 'N' :: '\\' :: held) rest
      | next :: rest =>
        if next = '\x7b' ∨ next = '\x7d' then atBrace level ('\\' :: held) next rest
        else read isRaw level size (next :: '\\' :: held) rest
      | [] => .ok ⟨('\\' :: held).reverse, false, []⟩
    else if c = '\x7b' ∨ c = '\x7d' then atBrace level held c rest
    else read isRaw level size (c :: held) rest

/-- An open quote in an expression: one or three. -/
structure Quote where
  char : Char
  isTriple : Bool
deriving Repr, DecidableEq, Inhabited

/-- The bracket that a closing one closes. -/
def opener (c : Char) : Char := if c = ')' then '(' else if c = ']' then '[' else '\x7b'

/-- Splits an expression from what ends it.  Inside quotes and brackets nothing ends it; `held` is what
was read, the last character first, and `size` bounds the length of the text. -/
def splitExpression :
    Nat → Option Quote → List Char → List Char → List Char → Except String (List Char × List Char)
  | 0, _, _, held, text => .ok (held.reverse, text)
  | _ + 1, quote, opened, held, [] =>
    match quote, opened with
    | some _, _ => .error "f-string: unterminated string"
    | none, bracket :: _ => .error ("f-string: unmatched '" ++ String.singleton bracket ++ "'")
    | none, [] => .ok (held.reverse, [])
  | size + 1, quote, opened, held, c :: rest =>
    if c = '\\' then .error "f-string expression part cannot include a backslash"
    else
      match quote with
      | some current =>
        if c = current.char then
          if current.isTriple then
            if [c, c].isPrefixOf rest then
              splitExpression size none opened (c :: c :: c :: held) (rest.drop 2)
            else splitExpression size quote opened (c :: held) rest
          else splitExpression size none opened (c :: held) rest
        else splitExpression size quote opened (c :: held) rest
      | none =>
        if c = '\'' ∨ c = '"' then
          if [c, c].isPrefixOf rest then
            splitExpression size (some ⟨c, true⟩) opened (c :: c :: c :: held) (rest.drop 2)
          else splitExpression size (some ⟨c, false⟩) opened (c :: held) rest
        else if c = '(' ∨ c = '[' ∨ c = '\x7b' then
          if maxLevel ≤ opened.length then .error "f-string: too many nested parenthesis"
          else splitExpression size none (c :: opened) (c :: held) rest
        else if c = '#' then .error "f-string expression part cannot include '#'"
        else
          match opened with
          | [] =>
            if ['!', '=', '<', '>'].contains c && rest.head? == some '=' then
              splitExpression size none opened ('=' :: c :: held) (rest.drop 1)
            else if ['!', ':', '\x7d', '='].contains c then .ok (held.reverse, c :: rest)
            else if c = ')' ∨ c = ']' then
              .error ("f-string: unmatched '" ++ String.singleton c ++ "'")
            else splitExpression size none opened (c :: held) rest
          | bracket :: outer =>
            if c = ')' ∨ c = ']' ∨ c = '\x7d' then
              if bracket = opener c then splitExpression size none outer (c :: held) rest
              else
                .error ("f-string: closing parenthesis '" ++ String.singleton c
                  ++ "' does not match opening parenthesis '" ++ String.singleton bracket ++ "'")
            else splitExpression size none opened (c :: held) rest

/-- What is said of a brace that is not closed. -/
def unclosed : String := "f-string: expecting '\x7d'"

/-- Why an expression that something ends is empty. -/
def emptyFault? (expression rest : List Char) : Option String :=
  if expression.all fun c => [' ', '\t', '\n', '\x0c'].contains c then
    match rest with
    | c :: _ =>
      if ['!', ':', '='].contains c then
        some ("f-string: expression required before '" ++ String.singleton c ++ "'")
      else some "f-string: empty expression not allowed"
    | [] => none
  else none

/-- What follows an equals sign after an expression, and the blanks after it. -/
def afterEquals (rest : List Char) : List Char :=
  match rest with
  | '=' :: rest => rest.dropWhile fun c => [' ', '\t', '\n', '\x0b', '\x0c', '\r'].contains c
  | rest => rest

/-- What follows a conversion after an expression. -/
def afterConversion (rest : List Char) : Except String (List Char) :=
  match rest with
  | '!' :: [] => .error unclosed
  | '!' :: c :: rest =>
    if ['s', 'r', 'a'].contains c then .ok rest
    else .error "f-string: invalid conversion character: expected 's', 'r', or 'a'"
  | rest => .ok rest

def afterBrace (rest : List Char) : Except String (List Char) :=
  match rest with
  | '\x7d' :: rest => .ok rest
  | _ => .error unclosed

mutual
/-- What follows an expression whose brace was read, or why it cannot be read.  `check` says why an
expression with a text from its start on cannot be read; `size` bounds the length of the text. -/
def afterField (check : List Char → List Char → Option String) (isRaw : Bool) (level : Nat) :
    Nat → List Char → Except String (List Char)
  | 0, text => .ok text
  | size + 1, text =>
    if 2 ≤ level then .error "f-string: expressions nested too deeply"
    else do
      let (expression, rest) ← splitExpression (text.length + 1) none [] [] text
      if rest.isEmpty then .error unclosed
      else
        match (emptyFault? expression rest).or (check expression text) with
        | some fault => .error fault
        | none =>
          let rest ← afterConversion (afterEquals rest)
          match rest with
          | [':'] => .error unclosed
          | ':' :: rest => afterBrace (← afterParts check isRaw (level + 1) size rest)
          | rest => afterBrace rest

/-- What follows the parts of a template or of a format. -/
def afterParts (check : List Char → List Char → Option String) (isRaw : Bool) (level : Nat) :
    Nat → List Char → Except String (List Char)
  | 0, text => .ok text
  | size + 1, text => do
    let plain ← Plain.read isRaw level (text.length + 1) [] text
    match if isRaw then none else escapeFault? 0 (spelled plain.text) with
    | some fault => .error fault
    | none =>
      if plain.isDoubled then afterParts check isRaw level size plain.rest
      else
        match plain.rest with
        | '\x7b' :: rest =>
          afterParts check isRaw level size (← afterField check isRaw level size rest)
        | rest => if level ≠ 0 && rest.isEmpty then .error unclosed else .ok rest
end

def fault? (check : List Char → List Char → Option String) (kind : TextKind) (content : List Char) :
    Option String :=
  match afterParts check kind.isRaw 0 (2 * content.length + 2) content with
  | .error fault => some fault
  | .ok _ => none

end CallAtlas.Handler.Template
