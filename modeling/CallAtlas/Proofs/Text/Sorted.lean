import Mathlib.Data.List.Lex
import CallAtlas.Text.Sorted

/-!
The order of names.  Texts are compared by the numbers of their code points, and lists of texts text by
text.  The numbers determine the text, so both are linear orders, and there is one way to put names in
order.
-/

namespace CallAtlas

/-- The number of a code point determines it; no character has the number of a half. -/
theorem Point.code_injective {point other : Point} (hcode : point.code = other.code) :
    point = other := by
  rcases point with c | half <;> rcases other with d | other
  · exact congrArg Point.char (Char.toNat_inj.mp hcode)
  · have hvalid := c.valid
    have hlt := other.isLt
    simp only [code, Half.code, Char.toNat, UInt32.isValidChar, Nat.isValidChar] at hcode hvalid
    omega
  · have hvalid := d.valid
    have hlt := half.isLt
    simp only [code, Half.code, Char.toNat, UInt32.isValidChar, Nat.isValidChar] at hcode hvalid
    omega
  · have hval : half.val = other.val := Nat.add_left_cancel hcode
    exact congrArg Point.half (Fin.ext hval)

theorem Text.codes_injective {text other : Text} (hcodes : text.codes = other.codes) :
    text = other := by
  apply points_injective
  exact List.map_inj_right (fun _ _ => Point.code_injective) |>.mp hcodes

theorem nameLe_iff {a b : Text} : nameLe a b = true ↔ a.codes ≤ b.codes := by
  rw [nameLe, Bool.not_eq_true', ← Bool.not_eq_true, List.lex_eq_true_iff_lt, not_lt]

theorem nameLe_trans (a b c : Text) (hab : nameLe a b = true) (hbc : nameLe b c = true) :
    nameLe a c = true := by
  rw [nameLe_iff] at hab hbc ⊢
  exact hab.trans hbc

theorem nameLe_total (a b : Text) : (nameLe a b || nameLe b a) = true := by
  rw [Bool.or_eq_true, nameLe_iff, nameLe_iff]
  exact le_total a.codes b.codes

theorem nameLe_antisymm {a b : Text} (hab : nameLe a b = true) (hba : nameLe b a = true) :
    a = b :=
  Text.codes_injective (le_antisymm (nameLe_iff.mp hab) (nameLe_iff.mp hba))

/-- Lists of texts are compared as the lists of their numbers. -/
theorem namesLe_iff {as bs : List Text} :
    namesLe as bs = true ↔ as.map Text.codes ≤ bs.map Text.codes := by
  induction as generalizing bs with
  | nil => simp [namesLe, ← not_lt]
  | cons a as ih =>
      rcases bs with _ | ⟨b, bs⟩
      · simp [namesLe]
      · rw [namesLe, List.map_cons, List.map_cons, ← not_lt, List.cons_lt_cons_iff]
        by_cases hab : a = b
        · subst hab
          rw [if_pos rfl, ih, ← not_lt]
          simp
        · have hcodes : b.codes ≠ a.codes := fun heq => hab (Text.codes_injective heq.symm)
          rw [if_neg hab, nameLe_iff, ← not_lt]
          simp [hcodes]

theorem namesLe_trans (a b c : List Text) (hab : namesLe a b = true) (hbc : namesLe b c = true) :
    namesLe a c = true := by
  rw [namesLe_iff] at hab hbc ⊢
  exact hab.trans hbc

theorem namesLe_total (a b : List Text) : (namesLe a b || namesLe b a) = true := by
  rw [Bool.or_eq_true, namesLe_iff, namesLe_iff]
  exact le_total _ _

theorem pairwise_sortNames (names : List Text) :
    (sortNames names).Pairwise fun first second => nameLe first second = true :=
  List.pairwise_mergeSort nameLe_trans nameLe_total names

/-- Names in order are the sorted names, whatever order they had. -/
theorem eq_sortNames_iff {sorted names : List Text} :
    sorted = sortNames names ↔
      sorted.Perm names ∧ sorted.Pairwise fun first second => nameLe first second = true := by
  constructor
  · rintro rfl
    exact ⟨List.mergeSort_perm names nameLe, pairwise_sortNames names⟩
  · rintro ⟨hperm, hsorted⟩
    apply List.Perm.eq_of_pairwise (fun _ _ _ _ => nameLe_antisymm) hsorted (pairwise_sortNames names)
    exact hperm.trans (List.mergeSort_perm names nameLe).symm

end CallAtlas
