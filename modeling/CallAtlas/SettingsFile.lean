import CallAtlas.Table
import CallAtlas.Text.Blank

/-!
Settings files: lines such as `NAME=value`, `export NAME = "value"` and `# a remark`.  A value may
stand in quotes, where a backslash keeps a quote inside; `${NAME}` in a value stands for a variable
that was set before, and `${NAME:-other}` for `other` if there is none.  A line that cannot be read
is passed over.
-/

namespace CallAtlas.SettingsFile

/-- A text in which every line break is a line feed. -/
def unifyBreaks : List Char → List Char
  | '\r' :: '\n' :: rest => '\n' :: unifyBreaks rest
  | '\r' :: rest => '\n' :: unifyBreaks rest
  | c :: rest => c :: unifyBreaks rest
  | [] => []

/-- A blank inside a line. -/
def isGap (c : Char) : Bool := Blank.isSpace c && c ≠ '\n'

/-- The rest of a text after a word that it starts with. -/
def after? : List Char → List Char → Option (List Char)
  | [], text => some text
  | _ :: _, [] => none
  | w :: word, c :: text => if w = c then after? word text else none

/-- A text without the word `export` and the gap after it, if it starts with them. -/
def dropExport (text : List Char) : List Char :=
  match after? "export".toList text with
  | some (c :: rest) => if isGap c then rest.dropWhile isGap else text
  | _ => text

/-- The text up to a closing quote, and what follows it.  A backslash keeps a quote after it inside,
unless no later quote closes the text. -/
def quoted? (quote : Char) : List Char → Option (List Char × List Char)
  | [] => none
  | '\\' :: c :: rest =>
    if c = quote then
      match quoted? quote rest with
      | some (body, after) => some ('\\' :: c :: body, after)
      | none => some (['\\'], rest)
    else (quoted? quote (c :: rest)).map fun (body, after) => ('\\' :: body, after)
  | c :: rest =>
    if c = quote then some ([], rest)
    else (quoted? quote rest).map fun (body, after) => (c :: body, after)

/-- What a character after a backslash stands for between these quotes. -/
def escaped? (quote c : Char) : Option Char :=
  if c = '\\' ∨ c = '\'' then some c
  else if quote = '\'' then none
  else
    match c with
    | '"' => some '"'
    | 'a' => some '\x07'
    | 'b' => some '\x08'
    | 'f' => some '\x0c'
    | 'n' => some '\n'
    | 'r' => some '\r'
    | 't' => some '\t'
    | 'v' => some '\x0b'
    | _ => none

/-- The text between quotes with its escapes read. -/
def unescape (quote : Char) : List Char → List Char
  | '\\' :: c :: rest =>
    match escaped? quote c with
    | some plain => plain :: unescape quote rest
    | none => '\\' :: unescape quote (c :: rest)
  | c :: rest => c :: unescape quote rest
  | [] => []

/-- A value without quotes up to its remark, which starts with a blank and `#`. -/
def beforeRemark : List Char → List Char
  | [] => []
  | c :: rest =>
    if Blank.isSpace c && (rest.dropWhile Blank.isSpace).head? == some '#' then []
    else c :: beforeRemark rest

/-- The name at the start of a line, and what follows it; a remark has none. -/
def name? (text : List Char) : Option (Option (List Char) × List Char) :=
  match text with
  | '#' :: _ => some (none, text)
  | '\'' :: rest =>
    let name := rest.takeWhile (· ≠ '\'')
    match rest.dropWhile (· ≠ '\'') with
    | [] => none
    | _ :: after => if name.isEmpty then none else some (some name, after)
  | text =>
    let isNameChar (c : Char) : Bool := !(c == '=' || c == '#' || Blank.isSpace c)
    let name := text.takeWhile isNameChar
    if name.isEmpty then none else some (some name, text.dropWhile isNameChar)

/-- The value after an equals sign, and what follows it. -/
def value? (text : List Char) : Option (List Char × List Char) :=
  let quotedBy (quote : Char) (rest : List Char) : Option (List Char × List Char) :=
    (quoted? quote rest).map fun (body, after) => (unescape quote body, after)
  match text with
  | '\'' :: rest => quotedBy '\'' rest
  | '"' :: rest => quotedBy '"' rest
  | text =>
    let line := text.takeWhile (· ≠ '\n')
    some (Blank.trimEnd Blank.isSpace (beforeRemark line), text.dropWhile (· ≠ '\n'))

/-- What follows the end of a line, if only a remark stands before it. -/
def lineEnd? (text : List Char) : Option (List Char) :=
  let text := text.dropWhile isGap
  let text :=
    match text with
    | '#' :: _ => text.dropWhile (· ≠ '\n')
    | text => text
  match text with
  | [] => some []
  | c :: rest => if c = '\n' then some rest else none

/-- What a line sets, if anything, and what follows it.  A name without an equals sign is set to
nothing.  After a fault the rest of the line is passed over. -/
def binding (text : List Char) : Option (List Char × Option (List Char)) × List Char :=
  let skip (text : List Char) : Option (List Char × Option (List Char)) × List Char :=
    (none, (text.dropWhile (· ≠ '\n')).drop 1)
  let text := dropExport text
  match name? text with
  | none => skip text
  | some (name, after) =>
    let finish (value : Option (List Char)) (after : List Char) :
        Option (List Char × Option (List Char)) × List Char :=
      match lineEnd? after with
      | some rest => (name.map fun name => (name, value), rest)
      | none => skip after
    match after.dropWhile isGap with
    | '=' :: rest =>
      let rest := rest.dropWhile isGap
      match value? rest with
      | some (value, after) => finish (some value) after
      | none => skip rest
    | after => finish none after

/-- What the lines of a text set, in order; each line takes at least one of `size` characters. -/
def bindings : Nat → List Char → List (List Char × Option (List Char))
  | 0, _ => []
  | size + 1, text =>
    match text.dropWhile Blank.isSpace with
    | [] => []
    | text =>
      match binding text with
      | (some found, rest) => found :: bindings size rest
      | (none, rest) => bindings size rest

/-- The name of a variable and what replaces a missing one, after the opening brace, and what
follows the closing brace. -/
def placeholder? (text : List Char) : Option (List Char × List Char × List Char) :=
  let name := text.takeWhile fun c => c ≠ '\x7d' && c ≠ ':'
  match text.dropWhile fun c => c ≠ '\x7d' && c ≠ ':' with
  | '\x7d' :: after => some (name, [], after)
  | ':' :: '-' :: rest =>
    match rest.dropWhile (· ≠ '\x7d') with
    | _ :: after => some (name, rest.takeWhile (· ≠ '\x7d'), after)
    | [] => none
  | _ => none

/-- A value with the variables in it filled in; `size` bounds the length of the value. -/
def fill (known : Text → Option Text) : Nat → List Char → List Point
  | 0, text => text.map .char
  | _ + 1, [] => []
  | size + 1, c :: rest =>
    let here : Option (List Char × List Char × List Char) :=
      match c, rest with
      | '$', '\x7b' :: body => placeholder? body
      | _, _ => none
    match here with
    | some (name, other, after) =>
      ((known (String.ofList name)).getD (String.ofList other)).points ++ fill known size after
    | none => .char c :: fill known size rest

/-- A variable as the lines before it and the environment set it; a name set to nothing stands for
the empty text. -/
def lookUp (environment : List (Text × Text)) (set : List (Text × Option Text)) (name : Text) :
    Option Text :=
  match Table.find name set with
  | some value => some (value.getD "")
  | none => (environment.reverse.find? fun entry => entry.1 == name).map Prod.snd

/-- The variables that a settings file sets, by name in the order in which they first appear. -/
def read (environment : List (Text × Text)) (text : String) : List (Text × Option Text) :=
  let chars := unifyBreaks text.toList
  (bindings (chars.length + 1) chars).foldl
    (fun set (name, value) =>
      let value := value.map fun value =>
        Text.ofPoints (fill (lookUp environment set) value.length value)
      Table.put (Text.plain (String.ofList name)) value set)
    []

end CallAtlas.SettingsFile
