import Mathlib.Logic.Basic
import CallAtlas.Alias

/-!
The segments of alias nodes.  They are the texts among the arguments of the node, so that a change
of trees that keeps texts, and makes none, keeps segments.
-/

namespace CallAtlas

theorem Term.hasForm_iff {form : Text} {term : Term} :
    term.hasForm form = true ↔ ∃ info args, term = .tuple [.text form, info, args] := by
  constructor
  · intro h
    unfold Term.hasForm at h
    split at h
    · rename_i name info args
      exact ⟨info, args, by rw [eq_of_beq h]⟩
    · contradiction
  · rintro ⟨info, args, rfl⟩
    simp [Term.hasForm]

namespace Alias

theorem texts?_cons_of_ne_text {item : Term} (hitem : ∀ text, item ≠ .text text)
    (rest : List Term) : texts? (item :: rest) = none := by
  cases item with
  | text segment => exact absurd rfl (hitem segment)
  | _ => rfl

theorem textsOf_cons_of_ne_text {item : Term} (hitem : ∀ text, item ≠ .text text)
    (rest : List Term) : textsOf (item :: rest) = textsOf rest := by
  cases item with
  | text segment => exact absurd rfl (hitem segment)
  | _ => rfl

@[simp] theorem texts?_map_text (segments : List Text) :
    texts? (segments.map .text) = some segments := by
  induction segments with
  | nil => rfl
  | cons segment rest ih => rw [List.map_cons, texts?, ih, Option.map_some]

theorem eq_map_text_of_texts? {items : List Term} {segments : List Text}
    (h : texts? items = some segments) : items = segments.map .text := by
  induction items generalizing segments with
  | nil =>
      obtain rfl := Option.some.inj h
      rfl
  | cons item rest ih =>
      cases item with
      | text segment =>
          obtain ⟨others, hothers, rfl⟩ := Option.map_eq_some_iff.mp h
          rw [List.map_cons, ← ih hothers]
      | _ => simp [texts?] at h

section Change

variable {change : Term → Term}

theorem ne_text_of_change (hchange : ∀ term text, change term = .text text ↔ term = .text text)
    {item : Term} (hitem : ∀ text, item ≠ .text text) (text : Text) : change item ≠ .text text := by
  intro heq
  exact hitem text ((hchange item text).mp heq)

theorem texts?_map (hchange : ∀ term text, change term = .text text ↔ term = .text text)
    (items : List Term) : texts? (items.map change) = texts? items := by
  induction items with
  | nil => rfl
  | cons item rest ih =>
      rw [List.map_cons]
      by_cases hitem : ∃ text, item = .text text
      · obtain ⟨text, rfl⟩ := hitem
        rw [(hchange _ text).mpr rfl, texts?, texts?, ih]
      · have hshape : ∀ text, item ≠ .text text := not_exists.mp hitem
        rw [texts?_cons_of_ne_text (ne_text_of_change hchange hshape),
          texts?_cons_of_ne_text hshape]

theorem textsOf_map (hchange : ∀ term text, change term = .text text ↔ term = .text text)
    (items : List Term) : textsOf (items.map change) = textsOf items := by
  induction items with
  | nil => rfl
  | cons item rest ih =>
      rw [List.map_cons]
      by_cases hitem : ∃ text, item = .text text
      · obtain ⟨text, rfl⟩ := hitem
        rw [(hchange _ text).mpr rfl, textsOf, textsOf, ih]
      · have hshape : ∀ text, item ≠ .text text := not_exists.mp hitem
        rw [textsOf_cons_of_ne_text (ne_text_of_change hchange hshape),
          textsOf_cons_of_ne_text hshape, ih]

end Change

/-- The segments of an alias node outside of any module: its arguments, if all of them are texts. -/
theorem parts_none_alias (info first : Term) (rest : List Term) :
    parts none (.tuple [.text "__aliases__", info, .list (first :: rest)]) =
      texts? (first :: rest) := by
  cases first <;> simp [parts, texts?]

theorem parts_of_not_alias {head args : Term}
    (h : ¬ (head = .text "__aliases__" ∧ ∃ items, args = .list items)) (current : Option Text)
    (info : Term) : parts current (.tuple [head, info, args]) = none := by
  unfold parts
  split
  · rename_i hterm
    simp only [Term.tuple.injEq, List.cons.injEq] at hterm
    obtain ⟨rfl, rfl, rfl, _⟩ := hterm
    rw [if_pos]
    intro hform
    exact h ⟨by rw [hform], _, rfl⟩
  · rfl

/-- The shape of the nodes that have segments: all segments are texts, or the first one is the current
module, of which there is one. -/
theorem parts_eq_some_iff {current : Option Text} {node : Term} {own : List Text} :
    parts current node = some own ↔
      (own ≠ [] ∧ ∃ info, node = .tuple [.text "__aliases__", info, .list (own.map .text)]) ∨
      ∃ name rest, current = some name ∧ own = Dotted.segments name ++ rest ∧
        ∃ info moduleInfo moduleArgs, node = .tuple [.text "__aliases__", info,
          .list (.tuple [.text "__MODULE__", moduleInfo, moduleArgs] :: rest.map .text)] := by
  constructor
  · intro h
    unfold parts at h
    split at h
    · rename_i form info first rest
      split at h
      · contradiction
      · rename_i hform
        obtain rfl : form = "__aliases__" := not_not.mp hform
        split at h
        · obtain ⟨others, hothers, rfl⟩ := Option.map_eq_some_iff.mp h
          rw [eq_map_text_of_texts? hothers]
          exact .inl ⟨by simp, info, rfl⟩
        · split at h
          · rename_i hmodule
            obtain ⟨moduleInfo, moduleArgs, rfl⟩ := Term.hasForm_iff.mp hmodule
            obtain ⟨name, rfl, hrest⟩ := Option.bind_eq_some_iff.mp h
            obtain ⟨others, hothers, rfl⟩ := Option.map_eq_some_iff.mp hrest
            rw [eq_map_text_of_texts? hothers]
            exact .inr ⟨name, others, rfl, rfl, info, moduleInfo, moduleArgs, rfl⟩
          · contradiction
    · contradiction
  · rintro (⟨hown, info, rfl⟩ | ⟨name, rest, rfl, rfl, info, moduleInfo, moduleArgs, rfl⟩)
    · obtain ⟨first, rest, rfl⟩ := List.exists_cons_of_ne_nil hown
      simp [parts]
    · simp [parts, Term.hasForm]

end Alias

end CallAtlas
