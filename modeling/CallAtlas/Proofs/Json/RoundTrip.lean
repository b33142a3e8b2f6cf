import CallAtlas.Json.Reader
import CallAtlas.Proofs.Json.Written
import CallAtlas.Proofs.Table

/-!
Reading what was written.  A reader that meets the tokens of a value where a value is due puts the
value where it belongs, provided that there is room for the arrays and objects in it.  Together with
the tokens of a written text this gives the value back from its text.
-/

namespace CallAtlas

namespace Json

mutual
/-- How deep arrays and objects are nested in a value. -/
def depth : Json → Nat
  | .array items => itemsDepth items + 1
  | .object fields => fieldsDepth fields + 1
  | _ => 0

def itemsDepth : List Json → Nat
  | [] => 0
  | item :: rest => max item.depth (itemsDepth rest)

def fieldsDepth : List (Text × Json) → Nat
  | [] => 0
  | (_, value) :: rest => max value.depth (fieldsDepth rest)
end

namespace Reader

variable {limit : Nat}

/-- Reads tokens one after the other. -/
def reads (limit : Nat) (reader : Reader) (tokens : List Token) : Except ReadError Reader :=
  tokens.foldlM (step limit) reader

theorem reads_cons {reader next : Reader} {token : Token}
    (hstep : step limit reader token = .ok next) (rest : List Token) :
    reads limit reader (token :: rest) = reads limit next rest := by
  rw [reads, List.foldlM_cons, hstep]
  rfl

/-- No value starts with a closing bracket. -/
theorem reads_firstItem (frames : List Frame) (value : Json) (rest : List Token) :
    reads limit ⟨.firstItem, frames⟩ (value.toTokens ++ rest) =
      reads limit ⟨.value, frames⟩ (value.toTokens ++ rest) := by
  cases value with
  | null | bool value | int value | decimal value | text value => rfl
  | array items => cases items <;> rfl
  | object fields => cases fields <;> rfl

theorem push_of_lt {frames : List Frame} (hroom : frames.length < limit) (phase : Phase)
    (frame : Frame) : push limit phase frame frames = .ok ⟨phase, frame :: frames⟩ := by
  rw [push, if_pos hroom]

mutual
/-- The tokens of a value, where a value is due, put it where it belongs. -/
theorem reads_toTokens (value : Json) (hvalue : value.isPortable = true) (frames : List Frame)
    (hroom : frames.length + value.depth ≤ limit) (rest : List Token) :
    reads limit ⟨.value, frames⟩ (value.toTokens ++ rest) =
      reads limit (accept value frames) rest := by
  cases value with
  | null | bool value | int value | decimal value | text value => rfl
  | array items =>
      rw [depth] at hroom
      have hfree : frames.length < limit := by omega
      have hopen : step limit ⟨.value, frames⟩ .openArray =
          .ok ⟨.firstItem, .array [] :: frames⟩ := push_of_lt hfree _ _
      cases items with
      | nil =>
          rw [toTokens, List.cons_append, reads_cons hopen]
          rfl
      | cons item more =>
          simp only [isPortable, areItemsPortable, Bool.and_eq_true] at hvalue
          rw [itemsDepth] at hroom
          rw [toTokens, List.cons_append, reads_cons hopen, List.append_assoc, List.append_assoc,
            reads_firstItem,
            reads_toTokens item hvalue.1 _ (by simp only [List.length_cons]; omega)]
          exact reads_itemTokens more hvalue.2 [item] frames (by omega) rest
  | object fields =>
      rw [depth] at hroom
      have hfree : frames.length < limit := by omega
      have hopen : step limit ⟨.value, frames⟩ .openObject =
          .ok ⟨.firstKey, .object [] "" :: frames⟩ := push_of_lt hfree _ _
      cases fields with
      | nil =>
          rw [toTokens, List.cons_append, reads_cons hopen]
          rfl
      | cons field more =>
          obtain ⟨key, value⟩ := field
          simp only [isPortable, areFieldsPortable, Bool.and_eq_true, decide_eq_true_eq] at hvalue
          obtain ⟨⟨⟨_, hfield⟩, hkey⟩, hmore⟩ := hvalue
          rw [fieldsDepth] at hroom
          have hfirst : step limit ⟨.firstKey, .object [] "" :: frames⟩ (.scalar (.text key)) =
              .ok ⟨.colon, .object [] key :: frames⟩ := rfl
          have hcolon : step limit ⟨.colon, .object [] key :: frames⟩ .colon =
              .ok ⟨.value, .object [] key :: frames⟩ := rfl
          rw [toTokens, List.cons_append, reads_cons hopen, List.cons_append, reads_cons hfirst,
            List.cons_append, reads_cons hcolon, List.append_assoc, List.append_assoc,
            reads_toTokens value hfield _ (by simp only [List.length_cons]; omega)]
          refine reads_fieldTokens more hmore [(key, value)] key frames ?_ (by omega) rest
          intro other hother hmem
          obtain rfl : other = key := by simpa using hmem
          exact hkey hother

/-- The other items of an array and its closing bracket finish it. -/
theorem reads_itemTokens (items : List Json) (hitems : areItemsPortable items = true)
    (before : List Json) (frames : List Frame)
    (hroom : frames.length + itemsDepth items + 1 ≤ limit) (rest : List Token) :
    reads limit ⟨.afterValue, .array before :: frames⟩
        (itemTokens items ++ ([.closeArray] ++ rest)) =
      reads limit (accept (.array (before.reverse ++ items)) frames) rest := by
  cases items with
  | nil =>
      rw [List.append_nil]
      rfl
  | cons item more =>
      simp only [areItemsPortable, Bool.and_eq_true] at hitems
      rw [itemsDepth] at hroom
      have hcomma : step limit ⟨.afterValue, .array before :: frames⟩ .comma =
          .ok ⟨.value, .array before :: frames⟩ := rfl
      rw [itemTokens, List.cons_append, reads_cons hcomma, List.append_assoc,
        reads_toTokens item hitems.1 _ (by simp only [List.length_cons]; omega)]
      rw [accept, reads_itemTokens more hitems.2 (item :: before) frames (by omega) rest]
      rw [List.reverse_cons, List.append_assoc, List.singleton_append]

/-- The other fields of an object and its closing bracket finish it.  Their keys are not there yet,
so every field goes to the end. -/
theorem reads_fieldTokens (fields : List (Text × Json)) (hfields : areFieldsPortable fields = true)
    (before : List (Text × Json)) (last : Text) (frames : List Frame)
    (hbefore : ∀ key ∈ fields.map Prod.fst, key ∉ before.map Prod.fst)
    (hroom : frames.length + fieldsDepth fields + 1 ≤ limit) (rest : List Token) :
    reads limit ⟨.afterValue, .object before last :: frames⟩
        (fieldTokens fields ++ ([.closeObject] ++ rest)) =
      reads limit (accept (.object (before ++ fields)) frames) rest := by
  cases fields with
  | nil =>
      rw [List.append_nil]
      rfl
  | cons field more =>
      obtain ⟨key, value⟩ := field
      simp only [areFieldsPortable, Bool.and_eq_true, decide_eq_true_eq] at hfields
      obtain ⟨⟨⟨_, hfield⟩, hkey⟩, hmore⟩ := hfields
      rw [fieldsDepth] at hroom
      have hcomma : step limit ⟨.afterValue, .object before last :: frames⟩ .comma =
          .ok ⟨.nextKey, .object before last :: frames⟩ := rfl
      have hnext : step limit ⟨.nextKey, .object before last :: frames⟩ (.scalar (.text key)) =
          .ok ⟨.colon, .object before key :: frames⟩ := rfl
      have hcolon : step limit ⟨.colon, .object before key :: frames⟩ .colon =
          .ok ⟨.value, .object before key :: frames⟩ := rfl
      rw [fieldTokens, List.cons_append, reads_cons hcomma, List.cons_append, reads_cons hnext,
        List.cons_append, reads_cons hcolon, List.append_assoc,
        reads_toTokens value hfield _ (by simp only [List.length_cons]; omega)]
      -- A key that stood there already would keep its place and lose its first value.
      rw [accept, Table.put_of_not_mem (hbefore key List.mem_cons_self),
        reads_fieldTokens more hmore (before ++ [(key, value)]) key frames ?_ (by omega) rest,
        List.append_assoc, List.singleton_append]
      intro other hother hmem
      rw [List.map_append, List.mem_append, List.map_singleton, List.mem_singleton] at hmem
      rcases hmem with hold | rfl
      · exact hbefore other (List.mem_cons_of_mem key hother) hold
      · exact hkey hother
end

end Reader

/-- The tokens of a value give the value back. -/
theorem ofTokens_toTokens {limit : Nat} {value : Json} (hvalue : value.isPortable = true)
    (hdepth : value.depth ≤ limit) : ofTokens limit value.toTokens = .ok value := by
  have hread := Reader.reads_toTokens value hvalue [] (by simpa using hdepth) []
  rw [List.append_nil] at hread
  change ((Reader.reads limit ⟨.value, []⟩ value.toTokens) >>= Reader.finish) = .ok value
  rw [hread]
  rfl

/-- What is written in any layout is read as it was. -/
theorem read_render (layout : Layout) {limit : Nat} {value : Json}
    (hvalue : value.isPortable = true) (hdepth : value.depth ≤ limit) :
    read limit (value.render layout) = .ok value := by
  rw [read, tokens_render layout hvalue, ofTokens_toTokens hvalue hdepth]

end Json

end CallAtlas
