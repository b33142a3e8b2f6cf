import Mathlib.Data.List.Basic
import Mathlib.Data.List.TakeWhile
import CallAtlas.Json.Printer
import CallAtlas.Json.Token

/-!
The texts of scalars.  A text of characters is given by its code units, and the digits of a whole
number, with a minus sign before them or not, are the word of this number and of nothing else.
-/

namespace CallAtlas

namespace Units

/-- Joining the units of a character in front of others gives the character. -/
theorem toPoints_ofChar (c : Char) (rest : List Nat) :
    toPoints (ofChar c ++ rest) = .char c :: toPoints rest := by
  have hvalid : c.toNat < 0xd800 ∨ 0xdfff < c.toNat ∧ c.toNat < 0x110000 := c.valid
  by_cases hsmall : c.toNat < 0x10000
  · have hsingle : single c.toNat = .char c := by
      have hno : ¬ (0xd800 ≤ c.toNat ∧ c.toNat < 0xe000) := by omega
      simp [single, Half.ofCode?, hno]
    have hfirst : isFirst c.toNat = false := by
      simp only [isFirst, Bool.and_eq_false_iff, decide_eq_false_iff_not]
      omega
    simp only [ofChar, hsmall, if_true, List.singleton_append]
    cases rest with
    | nil => simp [toPoints, hsingle]
    | cons next rest => simp [toPoints, hfirst, hsingle]
  · have hfirst : isFirst (0xd800 + (c.toNat - 0x10000) / 0x400) = true := by
      simp only [isFirst, Bool.and_eq_true, decide_eq_true_eq]
      omega
    have hsecond : isSecond (0xdc00 + (c.toNat - 0x10000) % 0x400) = true := by
      simp only [isSecond, Bool.and_eq_true, decide_eq_true_eq]
      omega
    have hjoined : 0x10000 + (0xd800 + (c.toNat - 0x10000) / 0x400 - 0xd800) * 0x400 +
        (0xdc00 + (c.toNat - 0x10000) % 0x400 - 0xdc00) = c.toNat := by omega
    simp only [ofChar, hsmall, if_false, List.cons_append, List.nil_append, toPoints, hfirst,
      hsecond, Bool.and_self, if_true, hjoined, Char.ofNat_toNat]

theorem ofChar_lt {c : Char} {unit : Nat} (hunit : unit ∈ ofChar c) : unit < 0x10000 := by
  have hvalid : c.toNat < 0xd800 ∨ 0xdfff < c.toNat ∧ c.toNat < 0x110000 := c.valid
  unfold ofChar at hunit
  split at hunit
  · rw [List.mem_singleton] at hunit
    omega
  · simp only [List.mem_cons, List.not_mem_nil, or_false] at hunit
    omega

end Units

namespace Text

/-- A text of characters is given by its code units. -/
theorem ofUnits_units_plain (chars : String) :
    ofUnits (Text.plain chars).units = .plain chars := by
  have hpoints : Units.toPoints (chars.toList.flatMap Units.ofChar) = chars.toList.map .char := by
    induction chars.toList with
    | nil => rfl
    | cons c rest ih => rw [List.flatMap_cons, Units.toPoints_ofChar, ih, List.map_cons]
  apply points_injective
  rw [ofUnits, points_ofPoints]
  exact hpoints

theorem units_plain_lt {chars : String} {unit : Nat} (hunit : unit ∈ (Text.plain chars).units) :
    unit < 0x10000 := by
  obtain ⟨c, _, hc⟩ := List.mem_flatMap.mp hunit
  exact Units.ofChar_lt hc

end Text

namespace Json

section Numbers

theorem digitChar_ne_zero : ∀ n < 10, 0 < n → n.digitChar ≠ '0' := by decide

/-- A number other than zero is written without a zero before it. -/
theorem head?_toDigits {n : Nat} (hn : 0 < n) : (Nat.toDigits 10 n).head? ≠ some '0' := by
  induction n using Nat.strongRecOn with
  | ind n ih =>
      by_cases hsmall : n < 10
      · rw [Nat.toDigits_of_lt_base hsmall]
        simpa using digitChar_ne_zero n hsmall hn
      · rw [Nat.toDigits_of_base_le (by omega) (by omega),
          List.head?_append_of_ne_nil _ Nat.toDigits_ne_nil]
        exact ih (n / 10) (by omega) (by omega)

theorem digitsValue_toDigits (n : Nat) : digitsValue (Nat.toDigits 10 n) = n := by
  rw [digitsValue]
  exact Nat.ofDigitChars_eq_foldl.symm.trans Nat.ofDigitChars_ten_toDigits

theorem isDigit_toDigits {n : Nat} : ∀ c ∈ Nat.toDigits 10 n, c.isDigit = true :=
  fun _ => Nat.isDigit_of_mem_toDigits (by decide) (by decide)

theorem length_toDigits_le {n : Nat} (hn : n < Numeral.bound) :
    (Nat.toDigits 10 n).length ≤ Numeral.maxDigits := by
  have hpos : 0 < Numeral.maxDigits := by decide
  unfold Numeral.bound at hn
  -- The power must not be computed, so the number of digits is taken to be any.
  generalize Numeral.maxDigits = count at hn hpos ⊢
  exact (Nat.length_toDigits_le_iff (by decide) hpos).mpr hn

/-- Digits up to the end of a word are a whole number. -/
theorem numberAfter_toDigits (negative : Bool) {n : Nat} (hn : n < Numeral.bound) :
    numberAfter negative (Nat.toDigits 10 n) [] =
      (.scalar (.int (if negative then -(n : Int) else n)), []) := by
  have hlength := length_toDigits_le hn
  simp [numberAfter, fraction, exponent, Nat.not_lt.mpr hlength, digitsValue_toDigits]

theorem number?_of_ne_zero (negative : Bool) {c : Char} (hzero : c ≠ '0') (hc : c.isDigit = true)
    (rest : List Char) :
    number? negative (c :: rest) =
      some (numberAfter negative ((c :: rest).takeWhile Char.isDigit)
        ((c :: rest).dropWhile Char.isDigit)) := by
  simp [number?, hc]

theorem number?_toDigits (negative : Bool) {n : Nat} (hn : n < Numeral.bound) :
    number? negative (Nat.toDigits 10 n) =
      some (.scalar (.int (if negative then -(n : Int) else n)), []) := by
  rw [← numberAfter_toDigits negative hn]
  rcases Nat.eq_zero_or_pos n with rfl | hpos
  · rfl
  · have hhead := head?_toDigits hpos
    have hdigits := isDigit_toDigits (n := n)
    cases hchars : Nat.toDigits 10 n with
    | nil => exact absurd hchars Nat.toDigits_ne_nil
    | cons c rest =>
        rw [hchars] at hhead hdigits
        have hzero : c ≠ '0' := by simpa using hhead
        have hc : c.isDigit = true := hdigits c List.mem_cons_self
        have htake : (c :: rest).takeWhile Char.isDigit = c :: rest :=
          List.takeWhile_eq_self_iff.mpr hdigits
        have hdrop : (c :: rest).dropWhile Char.isDigit = [] :=
          List.dropWhile_eq_nil_iff.mpr hdigits
        rw [number?_of_ne_zero negative hzero hc, htake, hdrop]

/-- No named value starts with a digit, or with a minus sign and a digit. -/
theorem wordValue?_of_isDigit {c : Char} (hc : c.isDigit = true) (rest : List Char) :
    wordValue? (c :: rest) = number? false (c :: rest) ∧
      wordValue? ('-' :: c :: rest) = number? true (c :: rest) := by
  have hne : ∀ d : Char, d.isDigit = false → d ≠ c := by
    rintro d hd rfl
    rw [hc] at hd
    contradiction
  have hI := hne 'I' rfl
  constructor
  · simp only [wordValue?, namedValues, List.findSome?_cons, List.findSome?_nil, afterWord,
      String.reduceToList, hne 'n' rfl, hne 't' rfl, hne 'f' rfl, hne 'N' rfl, hne '-' rfl, hI,
      if_false, Option.map_none]
    split
    next heq => exact absurd (List.cons.inj heq).1.symm (hne '-' rfl)
    next => rfl
  · simp [wordValue?, namedValues, afterWord, hI]

theorem toList_toString_ofNat (n : Nat) : (toString (Int.ofNat n)).toList = Nat.toDigits 10 n := by
  change (toString n).toList = _
  rw [Nat.toString_eq_ofList_toDigits, String.toList_ofList]

theorem toList_toString_negSucc (n : Nat) :
    (toString (Int.negSucc n)).toList = '-' :: Nat.toDigits 10 (n + 1) := by
  change ("-" ++ toString (n + 1)).toList = _
  simp

theorem eq_of_toDigits {n m : Nat} (h : Nat.toDigits 10 n = Nat.toDigits 10 m) : n = m := by
  rw [← digitsValue_toDigits n, h, digitsValue_toDigits]

/-- The digits of one number never start with the sign of another. -/
theorem toDigits_ne_minus (n : Nat) (rest : List Char) : Nat.toDigits 10 n ≠ '-' :: rest := by
  intro h
  have hminus : Char.isDigit '-' = true := isDigit_toDigits '-' (h ▸ List.mem_cons_self)
  contradiction

/-- Whole numbers with the same sign and digits are the same. -/
theorem eq_of_toList_toString {value other : Int}
    (h : (toString value).toList = (toString other).toList) : value = other := by
  cases value with
  | ofNat n =>
      rw [toList_toString_ofNat] at h
      cases other with
      | ofNat m =>
          rw [toList_toString_ofNat] at h
          rw [eq_of_toDigits h]
      | negSucc m =>
          rw [toList_toString_negSucc] at h
          exact absurd h (toDigits_ne_minus n _)
  | negSucc n =>
      rw [toList_toString_negSucc] at h
      cases other with
      | ofNat m =>
          rw [toList_toString_ofNat] at h
          exact absurd h.symm (toDigits_ne_minus m _)
      | negSucc m =>
          rw [toList_toString_negSucc] at h
          rw [Nat.succ.inj (eq_of_toDigits (List.cons.inj h).2)]

/-- The word of a whole number is read as this number. -/
theorem wordTokens_int {value : Int} (hvalue : Numeral.isOversized value = false) :
    wordTokens (toString value).toList = [.scalar (.int value)] := by
  have hbound : value.natAbs < Numeral.bound := by
    simpa [Numeral.isOversized] using hvalue
  obtain ⟨c, rest, hchars⟩ := List.exists_cons_of_ne_nil
    (Nat.toDigits_ne_nil (n := value.natAbs) (b := 10))
  have hc : c.isDigit = true := isDigit_toDigits c (hchars ▸ List.mem_cons_self)
  cases value with
  | ofNat n =>
      have hnumber := number?_toDigits false hbound
      rw [hchars, ← (wordValue?_of_isDigit hc rest).1] at hnumber
      rw [toList_toString_ofNat, wordTokens, show Nat.toDigits 10 n = c :: rest from hchars,
        hnumber]
      rfl
  | negSucc n =>
      have hnumber := number?_toDigits true hbound
      rw [hchars, ← (wordValue?_of_isDigit hc rest).2] at hnumber
      rw [toList_toString_negSucc, wordTokens,
        show Nat.toDigits 10 (n + 1) = c :: rest from hchars, hnumber]
      rfl

end Numbers

end Json

end CallAtlas
