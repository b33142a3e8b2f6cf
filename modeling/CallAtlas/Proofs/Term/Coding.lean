import CallAtlas.Proofs.Source.Dump
import CallAtlas.Proofs.Text.Sorted

/-!
The coding of quoted trees as data values.  Every tree has a code, and a value that is the code of a
tree is the code of one tree only.

A value is refused for an object that is no code of a tuple.  Decoding goes from an array, and from the
code of a tuple, to the items in it; it meets the objects of a value in the order of their positions,
what is inside after what is around it.  Main statement: decoding and coding undo each other, and a
value is refused just if an object that is met is no code of a tuple, with the keys of the first such
object.
-/

namespace CallAtlas

namespace Json

/-- An object with these fields is the code of the tuple of some items: it has no other key than that
of tuples, and the array of the items stands under it. -/
def CodesTuple (fields : List (Text × Json)) (items : List Json) : Prop :=
  (∀ key, key ∈ fields.map Prod.fst ↔ key = Term.tupleKey) ∧
    Table.find Term.tupleKey fields = some (.array items)

/-- An object with these fields is no code of a tuple: it has another set of keys, or something else
than an array under the key of tuples. -/
def IsUnexpected (fields : List (Text × Json)) : Prop := ∀ items, ¬ CodesTuple fields items

/-- The items of an array, and of a tuple that is given by its code. -/
inductive Holds : Json → List Json → Prop
  | array (items : List Json) : Holds (.array items) items
  | tuple {fields : List (Text × Json)} {items : List Json} :
      CodesTuple fields items → Holds (.object fields) items

/-- The values that are met in a value on the way through arrays and tuples.  A position says by number
into which item to go at each step. -/
inductive Met (value : Json) : List Nat → Json → Prop
  | root : Met value [] value
  | item {position : List Nat} {part item : Json} {items : List Json} {index : Nat} :
      Met value position part → Holds part items → items[index]? = some item →
      Met value (position ++ [index]) item

/-- The first object, by position, that is met and is no code of a tuple. -/
def FirstUnexpected (value : Json) (fields : List (Text × Json)) : Prop :=
  ∃ position, Met value position (.object fields) ∧ IsUnexpected fields ∧
    ∀ other others, Met value other (.object others) → IsUnexpected others → ¬ other < position

mutual
/-- Whether no object of a value has a key twice. -/
def hasDistinctKeys : Json → Bool
  | .array items => haveDistinctKeys items
  | .object fields => decide (fields.map Prod.fst).Nodup && underDistinctKeys fields
  | _ => true

def haveDistinctKeys : List Json → Bool
  | [] => true
  | item :: rest => item.hasDistinctKeys && haveDistinctKeys rest

def underDistinctKeys : List (Text × Json) → Bool
  | [] => true
  | (_, value) :: rest => value.hasDistinctKeys && underDistinctKeys rest
end

theorem haveDistinctKeys_iff {items : List Json} :
    haveDistinctKeys items = true ↔ ∀ item ∈ items, item.hasDistinctKeys = true := by
  induction items with
  | nil => simp [haveDistinctKeys]
  | cons item rest ih => simp [haveDistinctKeys, ih]

section Holds

/-- Where no key stands twice, the code of a tuple has just one field. -/
theorem codesTuple_iff {fields : List (Text × Json)} (hnodup : (fields.map Prod.fst).Nodup)
    {items : List Json} : CodesTuple fields items ↔ fields = [(Term.tupleKey, .array items)] := by
  constructor
  · rintro ⟨hkeys, hfind⟩
    rcases fields with _ | ⟨⟨key, value⟩, rest⟩
    · contradiction
    · obtain rfl : key = Term.tupleKey := (hkeys key).mp List.mem_cons_self
      obtain rfl : value = .array items := by simpa [Table.find] using hfind
      rcases rest with _ | ⟨⟨other, _⟩, rest⟩
      · rfl
      · obtain rfl : other = Term.tupleKey := (hkeys other).mp (by simp)
        simp at hnodup
  · rintro rfl
    constructor
    · simp
    · simp [Table.find]

theorem Holds.unique {value : Json} {items others : List Json} (hitems : Holds value items)
    (hothers : Holds value others) : items = others := by
  cases hitems with
  | array => cases hothers with | array => rfl
  | tuple hcodes =>
      cases hothers with
      | tuple hothers => simpa [hcodes.2] using hothers.2

theorem Holds.not_isUnexpected {fields : List (Text × Json)} {items : List Json}
    (hholds : Holds (.object fields) items) : ¬ IsUnexpected fields := by
  intro hunexpected
  cases hholds with
  | tuple hcodes => exact hunexpected items hcodes

theorem Holds.hasDistinctKeys {value item : Json} {items : List Json} (hholds : Holds value items)
    (hvalue : value.hasDistinctKeys = true) (hitem : item ∈ items) :
    item.hasDistinctKeys = true := by
  cases hholds with
  | array => exact haveDistinctKeys_iff.mp hvalue item hitem
  | @tuple fields items hcodes =>
      simp only [Json.hasDistinctKeys, Bool.and_eq_true, decide_eq_true_eq] at hvalue
      obtain ⟨hnodup, hunder⟩ := hvalue
      obtain rfl := (codesTuple_iff hnodup).mp hcodes
      simp only [underDistinctKeys, Json.hasDistinctKeys, Bool.and_true] at hunder
      exact haveDistinctKeys_iff.mp hunder item hitem

theorem Holds.sizeOf_lt {value item : Json} {items : List Json} (hholds : Holds value items)
    (hitem : item ∈ items) : sizeOf item < sizeOf value := by
  have hlt := List.sizeOf_lt_of_mem hitem
  cases hholds with
  | array =>
      simp only [array.sizeOf_spec]
      omega
  | tuple hcodes =>
      have hfield := List.sizeOf_lt_of_mem (Table.mem_of_find hcodes.2)
      simp only [Prod.mk.sizeOf_spec, array.sizeOf_spec] at hfield
      simp only [object.sizeOf_spec]
      omega

end Holds

section Met

variable {value : Json}

/-- What is met in an item is met in the whole, behind the number of the item. -/
theorem Met.inside {items : List Json} (hholds : Holds value items) {index : Nat} {inner : Json}
    (hinner : items[index]? = some inner) {position : List Nat} {part : Json}
    (hmet : Met inner position part) : Met value (index :: position) part := by
  induction hmet with
  | root => exact Met.root.item hholds hinner
  | item _ hpart hitem ih => exact ih.item hpart hitem

/-- What is met is the whole, or is met in an item. -/
theorem Met.eq_or_inside {position : List Nat} {part : Json} (hmet : Met value position part) :
    (position = [] ∧ part = value) ∨
      ∃ items index inner rest, Holds value items ∧ items[index]? = some inner ∧
        position = index :: rest ∧ Met inner rest part := by
  induction hmet with
  | root => exact .inl ⟨rfl, rfl⟩
  | item _ hpart hitem ih =>
      rcases ih with ⟨rfl, rfl⟩ | ⟨items, index, inner, rest, hholds, hinner, rfl, hmet⟩
      · exact .inr ⟨_, _, _, [], hpart, hitem, rfl, .root⟩
      · exact .inr ⟨items, index, inner, _, hholds, hinner, rfl, hmet.item hpart hitem⟩

theorem Met.unique {position : List Nat} {part other : Json} (hpart : Met value position part)
    (hother : Met value position other) : part = other := by
  induction position generalizing value with
  | nil =>
      rcases hpart.eq_or_inside with ⟨_, rfl⟩ | ⟨_, _, _, _, _, _, hcons, _⟩
      · rcases hother.eq_or_inside with ⟨_, rfl⟩ | ⟨_, _, _, _, _, _, hcons, _⟩
        · rfl
        · contradiction
      · contradiction
  | cons index position ih =>
      rcases hpart.eq_or_inside with ⟨hnil, _⟩ | ⟨items, _, inner, _, hholds, hinner, hcons, hpart⟩
      · contradiction
      · rcases hother.eq_or_inside with
          ⟨hnil, _⟩ | ⟨others, _, next, _, hholds', hnext, hcons', hother⟩
        · contradiction
        · obtain ⟨rfl, rfl⟩ := List.cons.inj hcons
          obtain ⟨rfl, rfl⟩ := List.cons.inj hcons'
          obtain rfl := hholds.unique hholds'
          obtain rfl := Option.some.inj (hinner.symm.trans hnext)
          exact ih hpart hother

theorem FirstUnexpected.unique {fields others : List (Text × Json)}
    (hfields : FirstUnexpected value fields) (hothers : FirstUnexpected value others) :
    fields = others := by
  obtain ⟨position, hmet, hunexpected, hfirst⟩ := hfields
  obtain ⟨other, hmet', hunexpected', hfirst'⟩ := hothers
  obtain rfl : position = other :=
    le_antisymm (not_lt.mp (hfirst _ _ hmet' hunexpected')) (not_lt.mp (hfirst' _ _ hmet hunexpected))
  exact object.inj (hmet.unique hmet')

/-- If no unexpected object is met in the items before, the first one of an item is the first of the
whole. -/
theorem FirstUnexpected.of_item {front rest : List Json} {item : Json}
    (hholds : Holds value (front ++ item :: rest))
    (hfront : ∀ other ∈ front, ∀ position fields, Met other position (.object fields) →
      ¬ IsUnexpected fields)
    {fields : List (Text × Json)} (hitem : FirstUnexpected item fields) :
    FirstUnexpected value fields := by
  obtain ⟨position, hmet, hunexpected, hfirst⟩ := hitem
  have hget : (front ++ item :: rest)[front.length]? = some item := by simp
  refine ⟨front.length :: position, hmet.inside hholds hget, hunexpected, ?_⟩
  intro other others hother hothers hlt
  rcases hother.eq_or_inside with
    ⟨_, rfl⟩ | ⟨items, index, inner, place, hholds', hinner, rfl, hmet'⟩
  · exact hholds.not_isUnexpected hothers
  · obtain rfl := hholds.unique hholds'
    rcases List.cons_lt_cons_iff.mp hlt with hindex | ⟨rfl, hplace⟩
    · rw [List.getElem?_append_left hindex] at hinner
      exact hfront inner (List.mem_of_getElem? hinner) place others hmet' hothers
    · obtain rfl := Option.some.inj (hget.symm.trans hinner)
      exact hfirst place others hmet' hothers hplace

/-- An unexpected object is the first of itself. -/
theorem FirstUnexpected.self {fields : List (Text × Json)} (hunexpected : IsUnexpected fields) :
    FirstUnexpected (.object fields) fields :=
  ⟨[], .root, hunexpected, fun _ _ _ _ hlt => List.not_lt_nil _ hlt⟩

end Met

end Json

namespace Term

open Json

theorem map_eq_ok_iff {ε α β : Type} {f : α → β} {result : Except ε α} {value : β} :
    result.map f = .ok value ↔ ∃ a, result = .ok a ∧ f a = value := by
  cases result <;> simp [Except.map]

theorem map_eq_error_iff {ε α β : Type} {f : α → β} {result : Except ε α} {fault : ε} :
    result.map f = .error fault ↔ result = .error fault := by
  cases result <;> simp [Except.map]

theorem decodeAll_cons (item : Json) (rest : List Json) :
    decodeAll (item :: rest) =
      (decode item).bind fun tree => (decodeAll rest).map (tree :: ·) := by
  rw [decodeAll]
  cases decode item with
  | error fault => rfl
  | ok tree => cases decodeAll rest <;> rfl

/-- An object is decoded as a tuple if it has the one field of such a code, and is refused with its keys
in order otherwise. -/
theorem decode_object (fields : List (Text × Json)) :
    (∃ items, fields = [(tupleKey, .array items)] ∧
        decode (.object fields) = (decodeAll items).map .tuple) ∨
      ((∀ items, fields ≠ [(tupleKey, .array items)]) ∧
        decode (.object fields) = .error ⟨sortNames (fields.map Prod.fst)⟩) := by
  by_cases hsingle : ∃ key items, fields = [(key, .array items)]
  · obtain ⟨key, items, rfl⟩ := hsingle
    rw [decode]
    by_cases hkey : key = tupleKey
    · subst hkey
      exact .inl ⟨items, rfl, if_pos rfl⟩
    · right
      rw [if_neg hkey]
      constructor
      · simp [hkey]
      · simp [sortNames]
  · right
    refine ⟨fun items heq => hsingle ⟨_, items, heq⟩, ?_⟩
    rw [decode]
    exact fun key items heq => hsingle ⟨key, items, heq⟩

mutual
/-- What a tree is decoded from is its code. -/
theorem encode_of_decode {value : Json} {tree : Term} (hdecode : decode value = .ok tree) :
    tree.encode = value := by
  cases value with
  | null | bool value | int value | decimal value | text value =>
      rw [decode] at hdecode
      obtain rfl := Except.ok.inj hdecode
      rfl
  | array items =>
      rw [decode] at hdecode
      obtain ⟨trees, hitems, rfl⟩ := map_eq_ok_iff.mp hdecode
      rw [encode, encodeAll_of_decodeAll hitems]
  | object fields =>
      rcases decode_object fields with ⟨items, rfl, htuple⟩ | ⟨_, herror⟩
      · rw [htuple] at hdecode
        obtain ⟨trees, hitems, rfl⟩ := map_eq_ok_iff.mp hdecode
        rw [encode, encodeAll_of_decodeAll hitems]
      · rw [herror] at hdecode
        contradiction

theorem encodeAll_of_decodeAll {values : List Json} {trees : List Term}
    (hdecode : decodeAll values = .ok trees) : encodeAll trees = values := by
  cases values with
  | nil =>
      obtain rfl := Except.ok.inj hdecode
      rfl
  | cons value rest =>
      rw [decodeAll_cons] at hdecode
      rcases hvalue : decode value with _ | tree
      · rw [hvalue] at hdecode
        contradiction
      · rw [hvalue] at hdecode
        obtain ⟨others, hrest, rfl⟩ := map_eq_ok_iff.mp hdecode
        rw [encodeAll, encode_of_decode hvalue, encodeAll_of_decodeAll hrest]
end

/-- Items are refused for the first one of them that is. -/
theorem exists_split_of_decodeAll {items : List Json} {fault : UnexpectedObject}
    (hdecode : decodeAll items = .error fault) :
    ∃ front item rest, items = front ++ item :: rest ∧ decode item = .error fault ∧
      ∀ other ∈ front, ∃ tree, decode other = .ok tree := by
  induction items with
  | nil => contradiction
  | cons item rest ih =>
      rw [decodeAll_cons] at hdecode
      rcases hitem : decode item with other | tree
      · rw [hitem] at hdecode
        obtain rfl : other = fault := Except.error.inj hdecode
        exact ⟨[], item, rest, rfl, hitem, by simp⟩
      · rw [hitem] at hdecode
        obtain ⟨front, inner, after, rfl, hinner, hfront⟩ := ih (map_eq_error_iff.mp hdecode)
        refine ⟨item :: front, inner, after, rfl, hinner, ?_⟩
        intro value hvalue
        rcases List.mem_cons.mp hvalue with rfl | hvalue
        · exact ⟨tree, hitem⟩
        · exact hfront value hvalue

theorem mem_encodeAll {trees : List Term} {value : Json} :
    value ∈ encodeAll trees ↔ ∃ tree ∈ trees, tree.encode = value := by
  induction trees with
  | nil => simp [encodeAll]
  | cons tree rest ih => simp [encodeAll, ih, eq_comm]

theorem holds_encode_tuple (items : List Term) : Holds (tuple items).encode (encodeAll items) := by
  have hcodes : CodesTuple [(tupleKey, .array (encodeAll items))] (encodeAll items) :=
    (codesTuple_iff (by simp)).mpr rfl
  exact .tuple hcodes

/-- The code of a tree holds codes of trees. -/
theorem exists_encodeAll_of_holds {tree : Term} {items : List Json} (hholds : Holds tree.encode items) :
    ∃ trees, encodeAll trees = items := by
  cases tree with
  | null | bool _ | int _ | decimal _ | text _ => contradiction
  | list trees => exact ⟨trees, (Holds.array _).unique hholds⟩
  | tuple trees => exact ⟨trees, (holds_encode_tuple trees).unique hholds⟩

/-- All that is met in the code of a tree is the code of a tree. -/
theorem exists_encode_of_met {tree : Term} {position : List Nat} {part : Json}
    (hmet : Met tree.encode position part) : ∃ inner : Term, inner.encode = part := by
  induction hmet with
  | root => exact ⟨tree, rfl⟩
  | item _ hholds hitem ih =>
      obtain ⟨inner, rfl⟩ := ih
      obtain ⟨trees, rfl⟩ := exists_encodeAll_of_holds hholds
      obtain ⟨next, _, hnext⟩ := mem_encodeAll.mp (List.mem_of_getElem? hitem)
      exact ⟨next, hnext⟩

theorem not_isUnexpected_of_encode {tree : Term} {fields : List (Text × Json)}
    (hencode : tree.encode = .object fields) : ¬ IsUnexpected fields := by
  cases tree with
  | null | bool _ | int _ | decimal _ | text _ | list _ => contradiction
  | tuple items => exact (hencode ▸ holds_encode_tuple items).not_isUnexpected

/-- No unexpected object is met in a value that is decoded. -/
theorem not_isUnexpected_of_decode {value : Json} {tree : Term} (hdecode : decode value = .ok tree)
    {position : List Nat} {fields : List (Text × Json)} (hmet : Met value position (.object fields)) :
    ¬ IsUnexpected fields := by
  obtain rfl := encode_of_decode hdecode
  obtain ⟨inner, hinner⟩ := exists_encode_of_met hmet
  exact not_isUnexpected_of_encode hinner

/-- A value is refused for the items in it, or is an unexpected object itself. -/
theorem decode_error_cases {value : Json} (hkeys : value.hasDistinctKeys = true)
    {fault : UnexpectedObject} (hdecode : decode value = .error fault) :
    (∃ items, Holds value items ∧ decodeAll items = .error fault) ∨
      ∃ fields, value = .object fields ∧ IsUnexpected fields ∧
        fault = ⟨sortNames (fields.map Prod.fst)⟩ := by
  cases value with
  | null | bool _ | int _ | decimal _ | text _ => simp [decode] at hdecode
  | array items =>
      rw [decode] at hdecode
      exact .inl ⟨items, .array items, map_eq_error_iff.mp hdecode⟩
  | object fields =>
      simp only [hasDistinctKeys, Bool.and_eq_true, decide_eq_true_eq] at hkeys
      rcases decode_object fields with ⟨items, rfl, htuple⟩ | ⟨hfields, herror⟩
      · rw [htuple] at hdecode
        exact .inl ⟨items, .tuple ((codesTuple_iff hkeys.1).mpr rfl), map_eq_error_iff.mp hdecode⟩
      · right
        refine ⟨fields, rfl, ?_, Except.error.inj (hdecode.symm.trans herror)⟩
        intro items hcodes
        exact hfields items ((codesTuple_iff hkeys.1).mp hcodes)

/-- A value that is refused is refused for the first unexpected object. -/
theorem exists_firstUnexpected {value : Json} (hkeys : value.hasDistinctKeys = true)
    {fault : UnexpectedObject} (hdecode : decode value = .error fault) :
    ∃ fields, FirstUnexpected value fields ∧ fault = ⟨sortNames (fields.map Prod.fst)⟩ := by
  rcases decode_error_cases hkeys hdecode with
    ⟨items, hholds, hitems⟩ | ⟨fields, rfl, hunexpected, hfault⟩
  · obtain ⟨front, item, rest, rfl, hitem, hfront⟩ := exists_split_of_decodeAll hitems
    have hmem : item ∈ front ++ item :: rest := List.mem_append_right _ List.mem_cons_self
    have hlt : sizeOf item < sizeOf value := hholds.sizeOf_lt hmem
    obtain ⟨fields, hfirst, hfault⟩ :=
      exists_firstUnexpected (hholds.hasDistinctKeys hkeys hmem) hitem
    refine ⟨fields, .of_item hholds ?_ hfirst, hfault⟩
    -- The items in front are decoded, so nothing unexpected is met in them.
    intro other hother position others hmet
    obtain ⟨tree, htree⟩ := hfront other hother
    exact not_isUnexpected_of_decode htree hmet
  · exact ⟨fields, .self hunexpected, hfault⟩
termination_by sizeOf value

theorem decode_eq_error_iff {value : Json} (hkeys : value.hasDistinctKeys = true)
    {fault : UnexpectedObject} :
    decode value = .error fault ↔
      ∃ fields, FirstUnexpected value fields ∧ fault = ⟨sortNames (fields.map Prod.fst)⟩ := by
  constructor
  · exact exists_firstUnexpected hkeys
  · rintro ⟨fields, hfirst, rfl⟩
    rcases hdecode : decode value with fault | tree
    · obtain ⟨others, hothers, rfl⟩ := exists_firstUnexpected hkeys hdecode
      rw [hothers.unique hfirst]
    · obtain ⟨position, hmet, hunexpected, _⟩ := hfirst
      exact absurd hunexpected (not_isUnexpected_of_decode hdecode hmet)

/-- Coding and decoding undo each other: every tree is decoded from its code, and a value that is
decoded is the code of what it gives.  A value whose objects have no key twice is refused just if an
unexpected object is met in it, and the fault names the keys of the first such object, in order. -/
theorem coding_exact :
    (∀ tree : Term, decode tree.encode = .ok tree) ∧
    (∀ (value : Json) (tree : Term), decode value = .ok tree → tree.encode = value) ∧
    ∀ value : Json, value.hasDistinctKeys = true →
      ((∃ fault, decode value = .error fault) ↔
        ∃ position fields, Met value position (.object fields) ∧ IsUnexpected fields) ∧
      ∀ fault, decode value = .error fault ↔
        ∃ fields, FirstUnexpected value fields ∧ fault.keys.Perm (fields.map Prod.fst) ∧
          fault.keys.Pairwise fun first second => nameLe first second = true := by
  refine ⟨decode_encode, fun _ _ => encode_of_decode, ?_⟩
  intro value hkeys
  constructor
  · constructor
    · rintro ⟨fault, hdecode⟩
      obtain ⟨fields, ⟨position, hmet, hunexpected, _⟩, _⟩ := exists_firstUnexpected hkeys hdecode
      exact ⟨position, fields, hmet, hunexpected⟩
    · rintro ⟨position, fields, hmet, hunexpected⟩
      rcases hdecode : decode value with fault | tree
      · exact ⟨fault, rfl⟩
      · exact absurd hunexpected (not_isUnexpected_of_decode hdecode hmet)
  · intro fault
    rw [decode_eq_error_iff hkeys]
    rcases fault with ⟨keys⟩
    simp only [UnexpectedObject.mk.injEq, eq_sortNames_iff]

/-- Two unexpected objects, the first of them inside a tuple. -/
def twoUnexpected : Json :=
  .array [.int 1,
    .object [(tupleKey, .array [.null, .object [("b", .null), ("a", .array [])]])],
    .object [("x", .null)]]

theorem coding_exact_twoUnexpected :
    (tuple [.int 1, .list [.text "a", .tuple []]]).encode =
        .object [(tupleKey, .array [.int 1, .array [.text "a", .object [(tupleKey, .array [])]]])] ∧
      twoUnexpected.hasDistinctKeys = true ∧ decode twoUnexpected = .error ⟨["a", "b"]⟩ ∧
      ∃ fields, FirstUnexpected twoUnexpected fields ∧
        [.plain "a", .plain "b"].Perm (fields.map Prod.fst) := by
  have hkeys : twoUnexpected.hasDistinctKeys = true := by decide
  have hsorted : [.plain "a", .plain "b"] = sortNames ["b", "a"] :=
    eq_sortNames_iff.mpr ⟨List.Perm.swap _ _ _, by decide⟩
  have herror : decode twoUnexpected = .error ⟨["a", "b"]⟩ := by
    rw [hsorted]
    rfl
  refine ⟨coding_exact.2.1 _ _ rfl, hkeys, herror, ?_⟩
  obtain ⟨fields, hfirst, hperm, _⟩ := ((coding_exact.2.2 _ hkeys).2 _).mp herror
  exact ⟨fields, hfirst, hperm⟩

end Term

end CallAtlas
