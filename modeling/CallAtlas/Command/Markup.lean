import CallAtlas.Command.Handler
import CallAtlas.Command.Style
import CallAtlas.Text.Emoji
import CallAtlas.Text.Quoted
import CallAtlas.Text.Width

/-!
Console markup: `[bold]text[/bold]`.  A tag opens with a bracket and a small letter, `#`, `/` or `@`; a
closing tag ends the tag of its style, or the last one if it names none.  A backslash before a tag
makes it plain text, and `:name:` stands for an emoji.  On a console without styles only the plain
text is shown.
-/

namespace CallAtlas.Markup

/-- A piece of a marked-up text, with the place where it starts. -/
inductive Piece where
  | plain (text : List Point)
  | tag (position : Nat) (name : List Point) (parameters : Option (List Point))
deriving Repr, DecidableEq, Inhabited

def startsTag (c : Char) : Bool := ('a' ≤ c && c ≤ 'z') || c == '#' || c == '/' || c == '@'

/-- The text up to the first closing bracket, and what follows it.  An opening bracket must not come
before it. -/
def upToClose : List Point → Option (List Point × List Point)
  | [] => none
  | point :: rest =>
    if point = .char ']' then some ([], rest)
    else if point = .char '[' then none
    else (upToClose rest).map fun (body, rest) => (point :: body, rest)

/-- The tag that a text starts with: how many backslashes stand before it, its text, and the rest. -/
def tagAt (text : List Point) : Option (Nat × List Point × List Point) :=
  let escapes := (text.takeWhile (· == .char '\\')).length
  match text.drop escapes with
  | .char '[' :: point :: rest =>
    if point.passes startsTag then
      (upToClose rest).map fun (body, rest) => (escapes, point :: body, rest)
    else none
  | _ => none

/-- The tag of a tag text, which may have parameters after an equals sign. -/
def tagOf (position : Nat) (text : List Point) : Piece :=
  match text.dropWhile (· ≠ .char '=') with
  | [] => .tag position text none
  | _ :: parameters => .tag position (text.takeWhile (· ≠ .char '=')) (some parameters)

/-- Cuts a text into plain pieces and tags, from the given place on; `held` is plain text, backwards,
that waits for its end.  Each step takes at least one of `size` code points. -/
def pieces : Nat → Nat → List Point → List Point → List Piece
  | 0, _, held, _ => [.plain held.reverse]
  | _ + 1, _, held, [] => [.plain held.reverse]
  | size + 1, position, held, point :: rest =>
    match tagAt (point :: rest) with
    | none => pieces size (position + 1) (point :: held) rest
    | some (escapes, body, after) =>
      let width := escapes + body.length + 2
      let slashes := List.replicate (escapes / 2) (.char '\\')
      let before : List Piece := [.plain held.reverse, .plain slashes]
      let piece : Piece :=
        if escapes % 2 = 1 then .plain (.char '[' :: body ++ [.char ']'])
        else tagOf (position + 2 * (escapes / 2)) body
      before ++ piece :: pieces size (position + width) [] after

/-- Plain text in which a backslash before a bracket is dropped. -/
def unescape : List Point → List Point
  | .char '\\' :: .char '[' :: rest => .char '[' :: unescape rest
  | point :: rest => point :: unescape rest
  | [] => []

/-- Why a text cannot be shown. -/
inductive Fault where
  | unmatched (tag : Text) (position : Nat)
  | nothingOpen (position : Nat)
  | handler (expression parameters : Text) (reason : String)
  | unreadable (parameters : Text) (reason : String)
  | number (cause : NumberFault)
deriving Repr, DecidableEq, Inhabited

def Fault.message : Fault → Text
  | .unmatched tag position =>
    "closing tag '" ++ tag ++ "' at position " ++ toString position
      ++ " doesn't match any open tag"
  | .nothingOpen position =>
    "closing tag '[/]' at position " ++ toString position ++ " has nothing to close"
  | .handler expression parameters reason =>
    "error parsing " ++ Quoted.encode expression ++ " in " ++ Quoted.encode parameters ++ "; "
      ++ reason
  | .unreadable parameters reason => "error parsing " ++ Quoted.encode parameters ++ "; " ++ reason
  | .number cause => cause.message

/-- The name by which tags are compared. -/
def tagName (name : List Point) : Except Fault Text :=
  (Style.normalForm (.ofPoints name)).mapError .number

def tagText (name : List Point) (parameters : Option (List Point)) : Text :=
  match parameters with
  | none => .ofPoints (.char '[' :: name ++ [.char ']'])
  | some parameters => .ofPoints (.char '[' :: name ++ .char '=' :: parameters ++ [.char ']'])

/-- A stretch of plain text with the style of a tag. -/
structure Span where
  start : Nat
  stop : Nat
  style : Text
deriving Repr, DecidableEq, Inhabited

/-- A text without its tags, and what they style. -/
structure Marked where
  plain : List Point
  spans : List Span
deriving Repr, DecidableEq, Inhabited

/-- A tag that waits for its end, and how much plain text came before it. -/
structure OpenTag where
  name : Text
  parameters : Option (List Point)
  start : Nat
deriving Repr, DecidableEq, Inhabited

/-- What a tag styles if it ends here. -/
def OpenTag.span (tag : OpenTag) (stop : Nat) : Span :=
  let style :=
    match tag.parameters with
    | none => tag.name
    | some parameters => tag.name ++ " " ++ .ofPoints parameters
  { start := tag.start, stop, style }

/-- Checks a tag that is closed: the parameters of a handler must be an expression that stands for a
value. -/
def OpenTag.check (tag : OpenTag) : Except Fault Unit :=
  match tag.name.points, tag.parameters with
  | .char '@' :: _, some (point :: rest) =>
    let parameters := Text.ofPoints (point :: rest)
    let expression := Text.ofPoints (Handler.expressionOf parameters.trimmed.points)
    match expression.stray?, Handler.fault? expression.spelledOut.toList with
    | some cause, _ => .error (.unreadable parameters cause.message)
    | none, some (.expression reason) => .error (.handler expression parameters reason)
    | none, some (.value reason) => .error (.unreadable parameters reason)
    | none, none => .ok ()
  | _, _ => .ok ()

/-- The last open tag of a name, and the other open tags. -/
def takeTag (name : Text) : List OpenTag → Option (OpenTag × List OpenTag)
  | [] => none
  | tag :: rest =>
    if tag.name = name then some (tag, rest)
    else (takeTag name rest).map fun (found, rest) => (found, tag :: rest)

/-- The tag that a closing tag ends, and the tags that stay open.  The last one open comes first. -/
def closeTag (opened : List OpenTag) (position : Nat) (name closed : List Point)
    (parameters : Option (List Point)) : Except Fault (OpenTag × List OpenTag) := do
  let closed := Blank.trim (Point.passes Blank.isSpace) closed
  let (tag, rest) ←
    if closed.isEmpty then
      match opened with
      | [] => .error (.nothingOpen position)
      | tag :: rest => .ok (tag, rest)
    else do
      match takeTag (← tagName closed) opened with
      | some found => .ok found
      | none => .error (.unmatched (tagText name parameters) position)
  tag.check
  pure (tag, rest)

/-- Characters that a console line never shows: bell, backspace, line and page breaks. -/
def isControl (c : Char) : Bool := [7, 8, 11, 12, 13].contains c.toNat

def shownPiece (text : List Point) : List Point :=
  (Emoji.replace (unescape text)).filter fun point => !point.passes isControl

/-- Reads pieces while some tags are open; `length` is how much plain text came before them. -/
def readPieces (opened : List OpenTag) (length : Nat) : List Piece → Except Fault Marked
  | [] => .ok { plain := [], spans := opened.map (·.span length) }
  | .plain text :: rest =>
    let visible := shownPiece text
    (readPieces opened (length + visible.length) rest).map fun marked =>
      { marked with plain := visible ++ marked.plain }
  | .tag position name parameters :: rest =>
    match name with
    | .char '/' :: closed => do
      let (tag, opened) ← closeTag opened position name closed parameters
      let marked ← readPieces opened length rest
      pure { marked with spans := tag.span length :: marked.spans }
    | name => do
      let tag : OpenTag := { name := ← tagName name, parameters, start := length }
      readPieces (tag :: opened) length rest

def read (text : Text) : Except Fault Marked :=
  let points := text.points
  readPieces [] 0 (pieces points.length 0 [] points)

/-- The fault of a style that cannot be looked up.  Where a text is cut at its line ends and tabs, a
span without text is lost. -/
def Marked.fault? (marked : Marked) : Option Fault :=
  let isCut := marked.plain.any fun point => point == .char '\n' || point == .char '\t'
  let spans := marked.spans.filter fun span =>
    !isCut || ((marked.plain.take span.stop).drop span.start).any (· ≠ .char '\n')
  let inOrder := spans.reverse.mergeSort fun a b => a.start ≤ b.start
  (inOrder.findSome? fun span => Style.fault? span.style).map .number

/-- The columns of a text.  What a joiner adds to an emoji takes none, and an emoji of one column
takes two if its presentation as a picture is selected; `last` is the last point with columns. -/
def columnsFrom (last : Option Point) : List Point → Nat
  | [] => 0
  | [point] => if point.code = 0xfe0f then widened last else Width.ofPoint point
  | point :: next :: rest =>
    if point.code = 0x200d then columnsFrom last rest
    else if point.code = 0xfe0f then widened last + columnsFrom none (next :: rest)
    else
      let width := Width.ofPoint point
      width + columnsFrom (if width = 0 then last else some point) (next :: rest)
where
  widened (last : Option Point) : Nat :=
    match last with
    | some (.char c) =>
      if Width.ofChar c = 1 && (Emoji.isEmoji c || c.isDigit || c == '#' || c == '*') then 1 else 0
    | _ => 0

/-- A line in which each tab becomes at least one blank, up to the next multiple of eight columns;
`held` is the text since the last tab, backwards, and `column` where it starts. -/
def expandTabs (column : Nat) (held : List Point) : List Point → List Point
  | [] => held.reverse
  | point :: rest =>
    if point = .char '\n' then held.reverse ++ point :: expandTabs 0 [] rest
    else if point = .char '\t' then
      let column := column + columnsFrom none held.reverse
      let blanks := 8 - column % 8
      held.reverse ++ List.replicate blanks (.char ' ') ++ expandTabs (column + blanks) [] rest
    else expandTabs column (point :: held) rest

/-- What a console without styles shows for a marked-up text. -/
def shown (text : Text) : Except Fault Text := do
  let marked ← read text
  match marked.fault? with
  | some fault => .error fault
  | none => .ok (.ofPoints (expandTabs 0 [] marked.plain))

end CallAtlas.Markup
