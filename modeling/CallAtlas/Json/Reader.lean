import CallAtlas.Json.Token

/-!
Reading JSON texts.  The arrays and objects still open are kept in a list, so a text of any depth
can be read; a text that opens more than the allowed number is refused where it does so.
-/

namespace CallAtlas.Json

/-- Why a text is refused. -/
inductive ReadError where
  | malformed
  | tooDeep
  | oversized (digits : Nat)
deriving Repr, DecidableEq, Inhabited

/-- An open array, its items backwards, or an open object with the key whose value comes next. -/
inductive Frame where
  | array (items : List Json)
  | object (fields : List (Text × Json)) (key : Text)
deriving Repr, Inhabited

/-- What may come next. -/
inductive Phase where
  | value
  | firstItem
  | firstKey
  | nextKey
  | colon
  | afterValue
  | finished (root : Json)
deriving Repr, Inhabited

/-- A reading in progress. -/
structure Reader where
  phase : Phase := .value
  frames : List Frame := []
deriving Repr, Inhabited

namespace Reader

/-- Puts a finished value where it belongs. -/
def accept (value : Json) : List Frame → Reader
  | [] => ⟨.finished value, []⟩
  | .array items :: rest => ⟨.afterValue, .array (value :: items) :: rest⟩
  | .object fields key :: rest => ⟨.afterValue, .object (Table.put key value fields) key :: rest⟩

/-- Opens an array or object, unless too many are open. -/
def push (limit : Nat) (phase : Phase) (frame : Frame) (frames : List Frame) :
    Except ReadError Reader :=
  if frames.length < limit then .ok ⟨phase, frame :: frames⟩ else .error .tooDeep

def startValue (limit : Nat) (frames : List Frame) : Token → Except ReadError Reader
  | .scalar value => .ok (accept value frames)
  | .openArray => push limit .firstItem (.array []) frames
  | .openObject => push limit .firstKey (.object [] "") frames
  | .oversized digits => .error (.oversized digits)
  | _ => .error .malformed

def startKey (frames : List Frame) : Token → Except ReadError Reader
  | .scalar (.text key) =>
    match frames with
    | .object fields _ :: rest => .ok ⟨.colon, .object fields key :: rest⟩
    | _ => .error .malformed
  | _ => .error .malformed

/-- Closes the innermost array or object if the bracket fits it. -/
def close (frames : List Frame) : Token → Except ReadError Reader
  | .closeArray =>
    match frames with
    | .array items :: rest => .ok (accept (.array items.reverse) rest)
    | _ => .error .malformed
  | .closeObject =>
    match frames with
    | .object fields _ :: rest => .ok (accept (.object fields) rest)
    | _ => .error .malformed
  | _ => .error .malformed

/-- Reads one token; `limit` is the greatest number of open arrays and objects. -/
def step (limit : Nat) (reader : Reader) (token : Token) : Except ReadError Reader :=
  match reader.phase with
  | .value => startValue limit reader.frames token
  | .firstItem =>
    match token with
    | .closeArray => close reader.frames token
    | _ => startValue limit reader.frames token
  | .firstKey =>
    match token with
    | .closeObject => close reader.frames token
    | _ => startKey reader.frames token
  | .nextKey => startKey reader.frames token
  | .colon =>
    match token with
    | .colon => .ok ⟨.value, reader.frames⟩
    | _ => .error .malformed
  | .afterValue =>
    match token with
    | .comma =>
      match reader.frames with
      | .array _ :: _ => .ok ⟨.value, reader.frames⟩
      | .object _ _ :: _ => .ok ⟨.nextKey, reader.frames⟩
      | [] => .error .malformed
    | _ => close reader.frames token
  | .finished _ => .error .malformed

/-- The value read, once the tokens have ended. -/
def finish (reader : Reader) : Except ReadError Json :=
  match reader.phase with
  | .finished root => .ok root
  | _ => .error .malformed

end Reader

def ofTokens (limit : Nat) (tokens : List Token) : Except ReadError Json := do
  (← tokens.foldlM (Reader.step limit) {}).finish

/-- The value that a text stands for. -/
def read (limit : Nat) (text : String) : Except ReadError Json := ofTokens limit (tokens text.toList)

end CallAtlas.Json
