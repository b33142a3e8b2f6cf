import CallAtlas.Proofs.Json.Scalar

/-!
Written values, read token by token.  A lexer that goes over the text of a value finds the tokens of
the value, whatever the layout.

Words and numbers have no end of their own: they end where the next token or the text ends.  `Has`
therefore says of a lexer that it has read some tokens, the last of which may be a word that it has
not put away yet.
-/

namespace CallAtlas.Json

mutual
/-- Whether a value is read as it was written: whole numbers have no more digits than can be read,
texts have characters only, and no object has a key twice. -/
def isPortable : Json → Bool
  | .null | .bool _ => true
  | .int value => !Numeral.isOversized value
  | .decimal _ => false
  | .text value => value.string?.isSome
  | .array items => areItemsPortable items
  | .object fields => areFieldsPortable fields

def areItemsPortable : List Json → Bool
  | [] => true
  | item :: rest => item.isPortable && areItemsPortable rest

def areFieldsPortable : List (Text × Json) → Bool
  | [] => true
  | (key, value) :: rest =>
    key.string?.isSome && value.isPortable && decide (key ∉ rest.map Prod.fst)
      && areFieldsPortable rest
end

mutual
/-- The tokens of a value. -/
def toTokens : Json → List Token
  | .null => [.scalar .null]
  | .bool value => [.scalar (.bool value)]
  | .int value => [.scalar (.int value)]
  | .decimal value => [.scalar (.decimal value)]
  | .text value => [.scalar (.text value)]
  | .array [] => [.openArray, .closeArray]
  | .array (item :: rest) => .openArray :: (item.toTokens ++ itemTokens rest ++ [.closeArray])
  | .object [] => [.openObject, .closeObject]
  | .object ((key, value) :: rest) =>
    .openObject :: .scalar (.text key) :: .colon ::
      (value.toTokens ++ fieldTokens rest ++ [.closeObject])

/-- The tokens of items after the first one. -/
def itemTokens : List Json → List Token
  | [] => []
  | item :: rest => .comma :: (item.toTokens ++ itemTokens rest)

/-- The tokens of fields after the first one. -/
def fieldTokens : List (Text × Json) → List Token
  | [] => []
  | (key, value) :: rest =>
    .comma :: .scalar (.text key) :: .colon :: (value.toTokens ++ fieldTokens rest)
end

namespace Lexer

/-- The lexer after a text. -/
def after (text : String) : Lexer := text.toList.foldl step {}

/-- A lexer that has put away some tokens and stands behind the last of them. -/
def ready (tokens : List Token) : Lexer := ⟨.between, tokens.reverse⟩

/-- The tokens that a lexer has read, if the text ended here. -/
inductive Has : Lexer → List Token → Prop where
  | between (tokens : List Token) : Has (ready tokens) tokens
  | word (chars : List Char) (tokens : List Token) :
    Has ⟨.word chars, tokens.reverse⟩ (tokens ++ wordTokens chars.reverse)

theorem after_append (text more : String) :
    after (text ++ more) = more.toList.foldl step (after text) := by
  rw [after, String.toList_append, List.foldl_append]
  rfl

theorem after_push (text : String) (c : Char) : after (text.push c) = (after text).step c := by
  rw [after, String.toList_push, List.foldl_append]
  rfl

theorem Has.of_after {text : String} {tokens : List Token} (h : after text = ready tokens) :
    Has (after text) tokens :=
  h ▸ .between tokens

theorem Has.finish {lexer : Lexer} {tokens : List Token} (h : Has lexer tokens) :
    lexer.finish = tokens := by
  cases h with
  | between tokens => exact List.reverse_reverse tokens
  | word chars tokens => simp [Lexer.finish]

/-- What cannot be part of a word ends it. -/
theorem Has.step {lexer : Lexer} {tokens : List Token} (h : Has lexer tokens) {c : Char}
    (hc : isWordChar c = false) : lexer.step c = (ready tokens).start c := by
  cases h with
  | between tokens => rfl
  | word chars tokens => simp [Lexer.step, hc, ready]

section Words

theorem start_of_isWordChar {lexer : Lexer} {c : Char} (hc : isWordChar c = true) :
    lexer.start c = ⟨.word [c], lexer.done⟩ := by
  have hne : ∀ d : Char, isWordChar d = false → c ≠ d := by
    rintro d hd rfl
    rw [hc] at hd
    contradiction
  simp [start, isBlank, hc, hne ' ' rfl, hne '\t' rfl, hne '\n' rfl, hne '\r' rfl, hne '[' rfl,
    hne ']' rfl, hne '\x7b' rfl, hne '\x7d' rfl, hne ',' rfl, hne ':' rfl, hne '"' rfl]

theorem foldl_step_word (word chars : List Char) (done : List Token)
    (hword : ∀ c ∈ word, isWordChar c = true) :
    word.foldl step ⟨.word chars, done⟩ = ⟨.word (word.reverse ++ chars), done⟩ := by
  induction word generalizing chars with
  | nil => rfl
  | cons c rest ih =>
      have hc := hword c List.mem_cons_self
      have hstep : step ⟨.word chars, done⟩ c = ⟨.word (c :: chars), done⟩ := by
        simp [step, hc]
      rw [List.foldl_cons, hstep, ih _ fun d hd => hword d (List.mem_cons_of_mem c hd)]
      simp

/-- A word behind a token stays pending. -/
theorem has_word {out word : String} {tokens : List Token} (hout : after out = ready tokens)
    (hnil : word.toList ≠ []) (hword : ∀ c ∈ word.toList, isWordChar c = true) :
    Has (after (out ++ word)) (tokens ++ wordTokens word.toList) := by
  obtain ⟨c, rest, hchars⟩ := List.exists_cons_of_ne_nil hnil
  rw [hchars] at hword ⊢
  have hfirst : step (ready tokens) c = ⟨.word [c], tokens.reverse⟩ :=
    start_of_isWordChar (hword c List.mem_cons_self)
  have hlexer : after (out ++ word) = ⟨.word (rest.reverse ++ [c]), tokens.reverse⟩ := by
    rw [after_append, hout, hchars, List.foldl_cons, hfirst, foldl_step_word]
    exact fun d hd => hword d (List.mem_cons_of_mem c hd)
  rw [hlexer]
  simpa using Has.word (rest.reverse ++ [c]) tokens

theorem toList_toString_ne_nil (value : Int) : (toString value).toList ≠ [] := by
  cases value with
  | ofNat n =>
      rw [toList_toString_ofNat]
      exact Nat.toDigits_ne_nil
  | negSucc n =>
      rw [toList_toString_negSucc]
      exact List.cons_ne_nil _ _

theorem isWordChar_toString (value : Int) : ∀ c ∈ (toString value).toList, isWordChar c = true := by
  have hdigits : ∀ n : Nat, ∀ c ∈ Nat.toDigits 10 n, isWordChar c = true := by
    intro n c hc
    simp [isWordChar, Char.isAlphanum, isDigit_toDigits c hc]
  intro c hc
  cases value with
  | ofNat n =>
      rw [toList_toString_ofNat] at hc
      exact hdigits n c hc
  | negSucc n =>
      rw [toList_toString_negSucc, List.mem_cons] at hc
      rcases hc with rfl | hc
      · rfl
      · exact hdigits (n + 1) c hc

end Words

section Texts

theorem toNat_ofNat_ascii : ∀ n < 127, (Char.ofNat n).toNat = n := by decide

theorem hexValue?_digit : ∀ n < 16, Hex.value? (Hex.digit n) = some n := by decide

/-- A printable character other than a quote and a backslash stands for itself. -/
theorem step_printable {unit : Nat} (hunit : 0x20 ≤ unit ∧ unit < 0x7f) (hquote : unit ≠ 0x22)
    (hslash : unit ≠ 0x5c) (units : List Nat) (done : List Token) :
    step ⟨.text units, done⟩ (Char.ofNat unit) = ⟨.text (unit :: units), done⟩ := by
  have hcode := toNat_ofNat_ascii unit hunit.2
  have hne : ∀ d : Char, unit ≠ d.toNat → Char.ofNat unit ≠ d := by
    rintro d hd heq
    exact hd (hcode.symm.trans (congrArg Char.toNat heq))
  simp [step, hne '"' hquote, hne '\\' hslash, hcode, Nat.not_lt.mpr hunit.1]

theorem step_hexDigit {n : Nat} (hn : n < 16) (units : List Nat) (missing value : Nat)
    (done : List Token) :
    step ⟨.unit units (missing + 2) value, done⟩ (Hex.digit n) =
      ⟨.unit units (missing + 1) (16 * value + n), done⟩ := by
  simp [step, hexValue?_digit n hn]

theorem step_lastHexDigit {n : Nat} (hn : n < 16) (units : List Nat) (value : Nat)
    (done : List Token) :
    step ⟨.unit units 1 value, done⟩ (Hex.digit n) = ⟨.text ((16 * value + n) :: units), done⟩ := by
  simp [step, hexValue?_digit n hn]

theorem foldl_step_hex {unit : Nat} (hunit : unit < 0x10000) (units : List Nat)
    (done : List Token) :
    (Hex.digits 4 unit).foldl step ⟨.unit units 4 0, done⟩ = ⟨.text (unit :: units), done⟩ := by
  have hvalue : 16 * (16 * (16 * (16 * 0 + unit / 16 / 16 / 16 % 16) + unit / 16 / 16 % 16) +
      unit / 16 % 16) + unit % 16 = unit := by omega
  have hlt : ∀ n, n % 16 < 16 := fun n => Nat.mod_lt n (by decide)
  simp only [Hex.digits, List.nil_append, List.cons_append, List.foldl_cons, List.foldl_nil]
  rw [step_hexDigit (hlt _), step_hexDigit (hlt _), step_hexDigit (hlt _),
    step_lastHexDigit (hlt _), hvalue]

/-- What is written for a code unit is read as this unit. -/
theorem foldl_step_escapeUnit {unit : Nat} (hunit : unit < 0x10000) (units : List Nat)
    (done : List Token) :
    (escapeUnit unit).toList.foldl step ⟨.text units, done⟩ = ⟨.text (unit :: units), done⟩ := by
  by_cases hshort : unit ∈ [0x22, 0x5c, 10, 13, 9, 8, 12]
  · simp only [List.mem_cons, List.not_mem_nil, or_false] at hshort
    rcases hshort with rfl | rfl | rfl | rfl | rfl | rfl | rfl <;> rfl
  · simp only [List.mem_cons, List.not_mem_nil, or_false, not_or] at hshort
    simp only [escapeUnit, hshort, if_false]
    by_cases hprintable : 0x20 ≤ unit ∧ unit < 0x7f
    · rw [if_pos hprintable, String.toList_singleton]
      exact step_printable hprintable hshort.1 hshort.2.1 units done
    · rw [if_neg hprintable, String.toList_ofList]
      exact foldl_step_hex hunit units done

theorem after_writeUnits {out : String} {units : List Nat} {done : List Token}
    (hout : after out = ⟨.text units, done⟩) (more : List Nat)
    (hmore : ∀ unit ∈ more, unit < 0x10000) :
    after (writeUnits out more) = ⟨.text (more.reverse ++ units), done⟩ := by
  induction more generalizing out units with
  | nil => exact hout
  | cons unit rest ih =>
      have hunit : after (out ++ escapeUnit unit) = ⟨.text (unit :: units), done⟩ := by
        rw [after_append, hout, foldl_step_escapeUnit (hmore unit List.mem_cons_self)]
      have hrest := ih hunit fun other hother => hmore other (List.mem_cons_of_mem unit hother)
      rw [List.reverse_cons, List.append_assoc, List.singleton_append]
      exact hrest

/-- A text of characters is read as it was written. -/
theorem after_writeText {out : String} {tokens : List Token} (hout : after out = ready tokens)
    (chars : String) :
    after (writeText out (.plain chars)) = ready (tokens ++ [.scalar (.text (.plain chars))]) := by
  have hopen : after (out.push '"') = ⟨.text [], tokens.reverse⟩ := by
    rw [after_push, hout]
    rfl
  have hunits := after_writeUnits hopen (Text.plain chars).units fun _ => Text.units_plain_lt
  rw [writeText, after_push, hunits]
  simp [step, ready, Text.ofUnits_units_plain]

end Texts

section Layouts

theorem foldl_step_blanks (count : Nat) (tokens : List Token) :
    (List.replicate count ' ').foldl step (ready tokens) = ready tokens := by
  induction count with
  | zero => rfl
  | succ count ih =>
      rw [List.replicate_succ, List.foldl_cons]
      exact ih

/-- A line break and blanks end a word and add nothing. -/
theorem Has.foldl_break {lexer : Lexer} {tokens : List Token} (h : Has lexer tokens)
    (indent level : Nat) :
    ((Layout.lines indent).break level).toList.foldl Lexer.step lexer = ready tokens := by
  have hline : (ready tokens).start '\n' = ready tokens := rfl
  rw [Layout.break, String.toList_ofList, List.foldl_cons, h.step rfl, hline, foldl_step_blanks]

theorem has_break {out : String} {tokens : List Token} (hout : Has (after out) tokens)
    (layout : Layout) (level : Nat) : Has (after (out ++ layout.break level)) tokens := by
  cases layout with
  | oneLine => rwa [Layout.break, String.append_empty]
  | lines indent =>
      rw [after_append, hout.foldl_break]
      exact .between tokens

theorem after_break {out : String} {tokens : List Token} (hout : after out = ready tokens)
    (layout : Layout) (level : Nat) : after (out ++ layout.break level) = ready tokens := by
  cases layout with
  | oneLine => rwa [Layout.break, String.append_empty]
  | lines indent => rw [after_append, (Has.of_after hout).foldl_break]

/-- A mark is put away as its token, and ends a word before it. -/
theorem Has.after_mark {out : String} {tokens : List Token} (h : Has (after out) tokens)
    (mark : String) (c : Char) (token : Token) (hmark : mark.toList = [c])
    (hc : isWordChar c = false)
    (hstart : ∀ done, start ⟨.between, done⟩ c = ⟨.between, token :: done⟩) :
    after (out ++ mark) = ready (tokens ++ [token]) := by
  rw [after_append, hmark, List.foldl_cons, List.foldl_nil, h.step hc, ready, hstart]
  simp [ready]

theorem Has.after_between {out : String} {tokens : List Token} (h : Has (after out) tokens)
    (layout : Layout) (level : Nat) :
    after (out ++ layout.between level) = ready (tokens ++ [.comma]) := by
  have hcomma : after (out ++ ",") = ready (tokens ++ [.comma]) :=
    h.after_mark "," ',' .comma rfl rfl fun _ => rfl
  cases layout with
  | oneLine =>
      rw [Layout.between, show ", " = "," ++ " " from rfl, ← String.append_assoc, after_append,
        hcomma]
      rfl
  | lines indent =>
      rw [Layout.between, ← String.append_assoc]
      exact after_break hcomma (.lines indent) level

/-- A key and its colon. -/
theorem after_key {out : String} {tokens : List Token} (hout : after out = ready tokens)
    {key : Text} (hkey : key.string?.isSome = true) :
    after (writeText out key ++ ": ") = ready (tokens ++ [.scalar (.text key), .colon]) := by
  cases key with
  | broken chars half rest => contradiction
  | plain chars =>
      have hcolon : after (writeText out (.plain chars) ++ ":") =
          ready (tokens ++ [.scalar (.text (.plain chars))] ++ [.colon]) :=
        (Has.of_after (after_writeText hout chars)).after_mark ":" ':' .colon rfl rfl fun _ => rfl
      rw [show ": " = ":" ++ " " from rfl, ← String.append_assoc, after_append, hcolon,
        List.append_assoc]
      rfl

end Layouts

mutual
/-- Behind a token, the text of a value is read as the tokens of the value. -/
theorem has_write {out : String} {tokens : List Token} (hout : after out = ready tokens)
    (layout : Layout) (level : Nat) (value : Json) (hvalue : value.isPortable = true) :
    Has (after (write layout level out value)) (tokens ++ value.toTokens) := by
  cases value with
  | null => exact has_word hout (by decide) (List.all_eq_true.mp rfl)
  | bool value =>
      cases value with
      | false => exact has_word hout (by decide) (List.all_eq_true.mp rfl)
      | true => exact has_word hout (by decide) (List.all_eq_true.mp rfl)
  | int value =>
      -- A number stays pending, like every word: its last digit is known by what comes next.
      have hword := has_word hout (toList_toString_ne_nil value) (isWordChar_toString value)
      rwa [wordTokens_int (by simpa [isPortable] using hvalue)] at hword
  | decimal value => simp [isPortable] at hvalue
  | text value =>
      cases value with
      | plain chars => exact .of_after (after_writeText hout chars)
      | broken chars half rest => simp [isPortable, Text.string?] at hvalue
  | array items =>
      have hopen := (Has.of_after hout).after_mark "[" '[' .openArray rfl rfl fun _ => rfl
      cases items with
      | nil =>
          have hclose := (Has.of_after hopen).after_mark "]" ']' .closeArray rfl rfl fun _ => rfl
          rw [String.append_assoc, List.append_assoc] at hclose
          exact .of_after hclose
      | cons item rest =>
          simp only [isPortable, areItemsPortable, Bool.and_eq_true] at hvalue
          have hitem := has_write (after_break hopen layout (level + 1)) layout (level + 1) item
            hvalue.1
          have hrest := has_writeItems hitem layout level rest hvalue.2
          have hclose := (has_break hrest layout level).after_mark "]" ']' .closeArray rfl rfl
            fun _ => rfl
          simpa [toTokens, write] using Has.of_after hclose
  | object fields =>
      have hopen := (Has.of_after hout).after_mark "\x7b" '\x7b' .openObject rfl rfl fun _ => rfl
      cases fields with
      | nil =>
          have hclose := (Has.of_after hopen).after_mark "\x7d" '\x7d' .closeObject rfl rfl
            fun _ => rfl
          rw [String.append_assoc, List.append_assoc] at hclose
          exact .of_after hclose
      | cons field rest =>
          obtain ⟨key, value⟩ := field
          simp only [isPortable, areFieldsPortable, Bool.and_eq_true] at hvalue
          obtain ⟨⟨⟨hkey, hfield⟩, _⟩, hfields⟩ := hvalue
          have hvalue := has_write (after_key (after_break hopen layout (level + 1)) hkey) layout
            (level + 1) value hfield
          have hrest := has_writeFields hvalue layout level rest hfields
          have hclose := (has_break hrest layout level).after_mark "\x7d" '\x7d' .closeObject rfl
            rfl fun _ => rfl
          simpa [toTokens, write] using Has.of_after hclose

theorem has_writeItems {out : String} {tokens : List Token} (hout : Has (after out) tokens)
    (layout : Layout) (level : Nat) (items : List Json) (hitems : areItemsPortable items = true) :
    Has (after (writeItems layout level out items)) (tokens ++ itemTokens items) := by
  cases items with
  | nil => simpa [writeItems, itemTokens] using hout
  | cons item rest =>
      simp only [areItemsPortable, Bool.and_eq_true] at hitems
      have hitem := has_write (hout.after_between layout (level + 1)) layout (level + 1) item
        hitems.1
      have hrest := has_writeItems hitem layout level rest hitems.2
      simpa [itemTokens, writeItems] using hrest

theorem has_writeFields {out : String} {tokens : List Token} (hout : Has (after out) tokens)
    (layout : Layout) (level : Nat) (fields : List (Text × Json))
    (hfields : areFieldsPortable fields = true) :
    Has (after (writeFields layout level out fields)) (tokens ++ fieldTokens fields) := by
  cases fields with
  | nil => simpa [writeFields, fieldTokens] using hout
  | cons field rest =>
      obtain ⟨key, value⟩ := field
      simp only [areFieldsPortable, Bool.and_eq_true] at hfields
      obtain ⟨⟨⟨hkey, hfield⟩, _⟩, hfields⟩ := hfields
      have hvalue := has_write (after_key (hout.after_between layout (level + 1)) hkey) layout
        (level + 1) value hfield
      have hrest := has_writeFields hvalue layout level rest hfields
      simpa [fieldTokens, writeFields] using hrest
end

end Lexer

/-- The text of a value, in any layout, has the tokens of the value. -/
theorem tokens_render (layout : Layout) {value : Json} (hvalue : value.isPortable = true) :
    tokens (value.render layout).toList = value.toTokens := by
  have hempty : Lexer.after "" = Lexer.ready [] := rfl
  exact (Lexer.has_write hempty layout 0 value hvalue).finish

end CallAtlas.Json
