import Mathlib.Data.List.Basic
import CallAtlas.Module.Normal
import CallAtlas.Proofs.Alias

/-!
Quoted trees up to metadata.  Reformatting a source changes lines, columns and other metadata of its
nodes; what remains is the shape of the tree, its scalars, and whether a node marks a call that was
written without parentheses.

`Term.bare` brings a tree into a form with no more metadata than that.  Trees that differ only in
metadata have the same bare form, and what names, alias statements and keyword lists say can be read
off it.
-/

namespace CallAtlas

namespace Term

mutual
/-- Trees that are the same up to metadata: the second part of a triple may be any other list that
agrees on the mark for calls without parentheses. -/
inductive Alike : Term → Term → Prop where
  | refl (term : Term) : Alike term term
  | list {items others : List Term} (h : AlikeAll items others) : Alike (.list items) (.list others)
  | tuple {items others : List Term} (h : AlikeAll items others) :
      Alike (.tuple items) (.tuple others)
  | node {head head' args args' : Term} {info info' : List Term} (hhead : Alike head head')
      (hinfo : Node.noParens (.list info) = Node.noParens (.list info'))
      (hargs : Alike args args') :
      Alike (.tuple [head, .list info, args]) (.tuple [head', .list info', args'])

inductive AlikeAll : List Term → List Term → Prop where
  | nil : AlikeAll [] []
  | cons {item other : Term} {items others : List Term} (hitem : Alike item other)
      (hitems : AlikeAll items others) : AlikeAll (item :: items) (other :: others)
end

/-- Metadata reduced to the mark for calls without parentheses; `other` in place of what is no
list. -/
def reduceInfo (other : Term) : Term → Term
  | .list entries =>
    .list (if Node.noParens (.list entries) then [.tuple [.text "no_parens", .bool true]] else [])
  | _ => other

mutual
/-- A tree whose nodes have no metadata but the mark for calls without parentheses. -/
def bare : Term → Term
  | .list items => .list (bareAll items)
  | .tuple items => .tuple (bareParts items)
  | term => term

def bareAll : List Term → List Term
  | [] => []
  | item :: rest => bare item :: bareAll rest

/-- The parts of a tuple; the second of three is metadata. -/
def bareParts : List Term → List Term
  | [head, info, args] => [bare head, reduceInfo (bare info) info, bare args]
  | [] => []
  | item :: rest => bare item :: bareAll rest
end

/-- The bare form of metadata. -/
def bareInfo (info : Term) : Term := reduceInfo info.bare info

@[simp] theorem bareAll_eq_map (items : List Term) : bareAll items = items.map bare := by
  induction items with
  | nil => rfl
  | cons item rest ih => rw [bareAll, ih, List.map_cons]

@[simp] theorem bare_list (items : List Term) : bare (.list items) = .list (items.map bare) := by
  rw [bare, bareAll_eq_map]

@[simp] theorem bare_null : bare .null = .null := rfl

@[simp] theorem bare_bool (value : Bool) : bare (.bool value) = .bool value := rfl

@[simp] theorem bare_int (value : Int) : bare (.int value) = .int value := rfl

@[simp] theorem bare_decimal (value : Decimal) : bare (.decimal value) = .decimal value := rfl

@[simp] theorem bare_text (value : Text) : bare (.text value) = .text value := rfl

@[simp low] theorem bare_tuple (items : List Term) :
    bare (.tuple items) = .tuple (bareParts items) := rfl

@[simp] theorem bare_unit : bare (.tuple []) = .tuple [] := rfl

@[simp] theorem bare_single (item : Term) : bare (.tuple [item]) = .tuple [item.bare] := rfl

@[simp] theorem bare_pair (first second : Term) :
    bare (.tuple [first, second]) = .tuple [first.bare, second.bare] := rfl

@[simp] theorem bare_triple (head info args : Term) :
    bare (.tuple [head, info, args]) = .tuple [head.bare, bareInfo info, args.bare] := rfl

@[simp] theorem bare_many (first second third fourth : Term) (rest : List Term) :
    bare (.tuple (first :: second :: third :: fourth :: rest)) =
      .tuple (first.bare :: second.bare :: third.bare :: fourth.bare :: rest.map bare) := by
  rw [← bareAll_eq_map]
  rfl

/-- The value of a key in the bare form of a keyword list. -/
theorem keyword_bare (key : Text) (term : Term) :
    term.bare.keyword key = (term.keyword key).bare := by
  cases term with
  | list items =>
      rw [bare_list]
      change keyword.lookup key (items.map bare) = (keyword.lookup key items).bare
      induction items with
      | nil => rfl
      | cons item rest ih =>
          induction item using tripleCases with
          | pair first second =>
              cases first with
              | text name =>
                  simp only [List.map_cons, bare_pair, bare_text, keyword.lookup]
                  split
                  · rfl
                  · exact ih
              | _ => simpa [keyword.lookup] using ih
          | _ => simpa [keyword.lookup] using ih
  | _ => rfl

@[simp] theorem isNull_bare (term : Term) : term.bare.isNull = term.isNull := by
  cases term <;> rfl

theorem bare_eq_text_iff (term : Term) (text : Text) :
    term.bare = .text text ↔ term = .text text := by
  cases term <;> simp [bare]

theorem bare_eq_true_iff (term : Term) : term.bare = .bool true ↔ term = .bool true := by
  cases term <;> simp [bare]

theorem noParens_bare (info : Term) : Node.noParens info.bare = Node.noParens info := by
  simp only [Node.noParens, keyword_bare, bare_eq_true_iff]

@[simp] theorem noParens_bareInfo (info : Term) :
    Node.noParens (bareInfo info) = Node.noParens info := by
  cases info with
  | list entries =>
      cases hmark : Node.noParens (.list entries) <;> rw [bareInfo, reduceInfo, hmark] <;> rfl
  | _ => exact noParens_bare _

theorem bareInfo_congr {info other : Term} (h : info.bare = other.bare) :
    bareInfo info = bareInfo other := by
  have hmark : Node.noParens info = Node.noParens other := by
    rw [← noParens_bare info, h, noParens_bare]
  cases info with
  | list entries =>
      cases other with
      | list others => rw [bareInfo, bareInfo, reduceInfo, reduceInfo, hmark]
      | _ => simp [bare] at h
  | _ =>
      cases other with
      | list others => simp [bare] at h
      | _ => exact h

theorem bareParts_of_length_ne {items : List Term} (h : items.length ≠ 3) :
    bareParts items = items.map bare := by
  rw [← bareAll_eq_map]
  match items with
  | [] | [_] | [_, _] | _ :: _ :: _ :: _ :: _ => rfl
  | [_, _, _] => exact absurd rfl h

/-- The bare form of a tuple can be read off the bare forms of its parts. -/
theorem bareParts_congr {items others : List Term} (h : items.map bare = others.map bare) :
    bareParts items = bareParts others := by
  have hlength : items.length = others.length := by simpa using congrArg List.length h
  -- only a triple has metadata, which its bare form shows less of than of other parts
  by_cases hthree : items.length = 3
  · obtain ⟨head, info, args, rfl⟩ := List.length_eq_three.mp hthree
    obtain ⟨head', info', args', rfl⟩ := List.length_eq_three.mp (hlength ▸ hthree)
    simp only [List.map_cons, List.map_nil, List.cons.injEq, and_true] at h
    obtain ⟨hhead, hinfo, hargs⟩ := h
    change [head.bare, bareInfo info, args.bare] = [head'.bare, bareInfo info', args'.bare]
    rw [hhead, hargs, bareInfo_congr hinfo]
  · rw [bareParts_of_length_ne hthree, bareParts_of_length_ne (hlength ▸ hthree), h]

mutual
/-- Trees that are the same up to metadata have the same bare form. -/
theorem Alike.bare_eq {term other : Term} (h : Alike term other) : term.bare = other.bare := by
  cases h with
  | refl => rfl
  | list hitems => rw [bare_list, bare_list, hitems.bare_eq]
  | tuple hitems => rw [bare_tuple, bare_tuple, bareParts_congr hitems.bare_eq]
  | node hhead hinfo hargs =>
      rw [bare_triple, bare_triple, hhead.bare_eq, hargs.bare_eq, bareInfo, bareInfo, reduceInfo,
        reduceInfo, hinfo]

theorem AlikeAll.bare_eq {items others : List Term} (h : AlikeAll items others) :
    items.map bare = others.map bare := by
  cases h with
  | nil => rfl
  | cons hitem hitems => rw [List.map_cons, List.map_cons, hitem.bare_eq, hitems.bare_eq]
end

@[simp] theorem hasForm_bare (form : Text) (term : Term) :
    term.bare.hasForm form = term.hasForm form := by
  induction term using tripleCases with
  | triple head info args => cases head <;> rfl
  | pair first second => cases first <;> rfl
  | single item => cases item <;> rfl
  | many first second third fourth rest => cases first <;> simp [hasForm]
  | _ => rfl

end Term

namespace Alias

open Term

@[simp] theorem texts?_bare (items : List Term) : texts? (items.map bare) = texts? items :=
  texts?_map bare_eq_text_iff items

@[simp] theorem textsOf_bare (items : List Term) : textsOf (items.map bare) = textsOf items :=
  textsOf_map bare_eq_text_iff items

/-- The segments of an alias node do not depend on metadata. -/
@[simp] theorem parts_bare (current : Option Text) (term : Term) :
    parts current term.bare = parts current term := by
  induction term using tripleCases with
  | triple head info args =>
      cases head with
      | text form =>
          cases args with
          | list items =>
              cases items with
              | nil => rfl
              | cons first rest =>
                  cases first with
                  | tuple parts =>
                      simp only [bare_triple, bare_text, bare_list, List.map_cons]
                      rw [bare_tuple]
                      simp only [Alias.parts, texts?_bare]
                      rw [← bare_tuple, hasForm_bare]
                  | _ => simp [parts, hasForm]
          | _ => rfl
      | _ => rfl
  | _ => simp [parts]

@[simp] theorem currentSegments_bare (term : Term) :
    currentSegments term.bare = currentSegments term := by
  induction term using tripleCases with
  | triple head info args =>
      cases head with
      | text form =>
          cases args with
          | list items =>
              cases items with
              | nil => rfl
              | cons first rest => simp [currentSegments]
          | _ => rfl
      | _ => rfl
  | _ => simp [currentSegments]

theorem unwrap_bare (term : Term) : unwrap term.bare = (unwrap term).bare := by
  induction term using tripleCases with
  | triple head info args =>
      cases head with
      | text form =>
          cases args with
          | list items =>
              match items with
              | [inner] =>
                  simp only [bare_triple, bare_text, bare_list, List.map_cons, List.map_nil, unwrap]
                  split <;> simp
              | [] | _ :: _ :: _ => simp [unwrap]
          | _ => rfl
      | _ => simp [unwrap]
  | _ => simp [unwrap]

@[simp] theorem grouped_bare (front : List Text) (item : Term) :
    grouped front item.bare = grouped front item := by
  simp only [grouped, parts_bare]

@[simp] theorem ofGroup_bare (current : Option Text) (term : Term) :
    ofGroup current term.bare = ofGroup current term := by
  induction term using tripleCases with
  | triple head info args =>
      induction head using tripleCases with
      | triple dot dotInfo operands =>
          cases dot with
          | text form =>
              cases operands with
              | list operands =>
                  match operands with
                  | [front, group] =>
                      cases args with
                      | list items =>
                          cases group with
                          | text name => simp [ofGroup, List.filterMap_map]
                          | _ => simp [ofGroup]
                      | _ => simp [ofGroup]
                  | [] | [_] | _ :: _ :: _ :: _ => simp [ofGroup]
              | _ => simp [ofGroup]
          | _ => simp [ofGroup]
      | _ => simp [ofGroup]
  | _ => simp [ofGroup]

theorem chosenName_bare (options : Option Term) :
    chosenName (options.map bare) = chosenName options := by
  cases options with
  | none => rfl
  | some options => simp [chosenName, keyword_bare]

/-- The short names that a statement introduces do not depend on metadata. -/
@[simp] theorem introduced_bare (current : Option Text) (term : Term) :
    introduced current term.bare = introduced current term := by
  induction term using tripleCases with
  | triple head info args =>
      cases head with
      | text form =>
          cases args with
          | list items =>
              cases items with
              | nil => rfl
              | cons first rest =>
                  simp only [bare_triple, bare_text, bare_list, List.map_cons, introduced,
                    unwrap_bare, parts_bare, ofGroup_bare, List.head?_map, chosenName_bare]
          | _ => rfl
      | _ => simp [introduced]
  | _ => simp [introduced]

theorem collect_bare (current : Option Text) (statements : List Term) :
    collect current (statements.map bare) = collect current statements := by
  simp [collect, List.flatMap_map]

end Alias

end CallAtlas
