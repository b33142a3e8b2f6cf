/-!
Numbers with a fractional part.  A literal is rounded to the nearest binary double and kept as the
shortest decimal digits that read back as the same double, so two literals of one double are the
same value and have the same text.
-/

namespace CallAtlas

/-- A double, by its shortest decimal digits: `digits * 10 ^ exponent`, with a sign. -/
inductive Decimal where
  | finite (negative : Bool) (digits : Nat) (exponent : Int)
  | infinity (negative : Bool)
  | nan
deriving Repr, DecidableEq, Inhabited

namespace Decimal

/-- The quotient rounded to the nearest whole number, a half going to the even neighbour. -/
def roundDiv (num den : Nat) : Nat :=
  let q := num / den
  let r := num % den
  if 2 * r < den then q
  else if den < 2 * r then q + 1
  else if q % 2 = 0 then q else q + 1

/-- The ratio `num / den` divided by `2 ^ e`, again as a ratio. -/
def scaleTwo (num den : Nat) (e : Int) : Nat × Nat :=
  if 0 ≤ e then (num, den * Nat.pow 2 e.toNat) else (num * Nat.pow 2 (-e).toNat, den)

/-- The ratio `digits * 10 ^ e`. -/
def ratioTen (digits : Nat) (e : Int) : Nat × Nat :=
  if 0 ≤ e then (digits * Nat.pow 10 e.toNat, 1) else (digits, Nat.pow 10 (-e).toNat)

/-- The binary double nearest to a positive ratio, as a significand and an exponent of two. -/
def nearestDouble (num den : Nat) : Nat × Int :=
  let guess : Int := (Nat.log2 num : Int) - (Nat.log2 den : Int)
  let (n, d) := scaleTwo num den guess
  let top : Int := if d ≤ n then guess else guess - 1
  let e : Int := max (top - 52) (-1074)
  let (n, d) := scaleTwo num den e
  let significand := roundDiv n d
  if significand = Nat.pow 2 53 then (Nat.pow 2 52, e + 1) else (significand, e)

def digitCount (n : Nat) : Nat := (Nat.toDigits 10 n).length

/-- Takes zeros off the end of the digits. -/
def trim : Nat → Nat → Int → Nat × Int
  | 0, digits, e => (digits, e)
  | fuel + 1, digits, e =>
    if digits ≠ 0 ∧ digits % 10 = 0 then trim fuel (digits / 10) (e + 1) else (digits, e)

/-- Tries grids of more and more digits for a decimal that reads back as the double. -/
def shortestFrom (double : Nat × Int) (num den : Nat) (top : Int) : Nat → Nat → Nat × Int
  | 0, count => (roundDiv num den, top - count)
  | fuel + 1, count =>
    let e : Int := top - count
    let (n, d) :=
      if 0 ≤ e then (num, den * Nat.pow 10 e.toNat) else (num * Nat.pow 10 (-e).toNat, den)
    let low := n / d
    let readsBack (digits : Nat) : Bool :=
      digits ≠ 0 && (let (a, b) := ratioTen digits e; nearestDouble a b == double)
    let lowFits := readsBack low
    let highFits := readsBack (low + 1)
    if lowFits && highFits then
      (if 2 * (n % d) < d || (2 * (n % d) == d && low % 2 == 0) then low else low + 1, e)
    else if lowFits then (low, e)
    else if highFits then (low + 1, e)
    else shortestFrom double num den top fuel (count + 1)

/-- The double nearest to `digits * 10 ^ exponent`, with the given sign. -/
def ofLiteral (negative : Bool) (digits : Nat) (exponent : Int) : Decimal :=
  if digits = 0 then .finite negative 0 0
  else
    let top : Int := exponent + digitCount digits
    if 310 < top then .infinity negative
    else if top < -330 then .finite negative 0 0
    else
      let (num, den) := ratioTen digits exponent
      let double := nearestDouble num den
      if double.1 = 0 then .finite negative 0 0
      else if 971 < double.2 then .infinity negative
      else
        let (n, d) : Nat × Nat :=
          if 0 ≤ double.2 then (double.1 * Nat.pow 2 double.2.toNat, 1)
          else (double.1, Nat.pow 2 (-double.2).toNat)
        let (digits, e) := shortestFrom double n d (top + 1) 18 1
        let (digits, e) := trim 20 digits e
        .finite negative digits e

/-- The exponent of ten as written after the mark: a sign and at least two digits. -/
def exponentText (e : Int) : String :=
  let size := toString e.natAbs
  (if e < 0 then "-" else "+") ++ (if size.length < 2 then "0" ++ size else size)

/-- Digits are written out for sizes from a ten-thousandth up to ten to the sixteenth, always with
a point; smaller and larger numbers carry an exponent. -/
def finiteText (digits : Nat) (exponent : Int) : String :=
  let ds := Nat.toDigits 10 digits
  let point : Int := exponent + ds.length
  if digits = 0 then "0.0"
  else if -4 < point ∧ point ≤ 16 then
    if point ≤ 0 then
      "0." ++ String.ofList (List.replicate (-point).toNat '0' ++ ds)
    else if (ds.length : Int) ≤ point then
      String.ofList (ds ++ List.replicate (point - ds.length).toNat '0') ++ ".0"
    else
      String.ofList (ds.take point.toNat) ++ "." ++ String.ofList (ds.drop point.toNat)
  else
    let mantissa :=
      match ds with
      | [] => "0"
      | [d] => String.singleton d
      | d :: rest => String.ofList (d :: '.' :: rest)
    mantissa ++ "e" ++ exponentText (point - 1)

/-- The text of a number as it stands in messages. -/
def text : Decimal → String
  | .finite negative digits exponent => (if negative then "-" else "") ++ finiteText digits exponent
  | .infinity negative => if negative then "-inf" else "inf"
  | .nan => "nan"

/-- The text of a number as it stands in data files. -/
def dataText : Decimal → String
  | .infinity negative => if negative then "-Infinity" else "Infinity"
  | .nan => "NaN"
  | number => number.text

def atMost (number : Decimal) (count : Int) : Bool :=
  match number with
  | .finite negative digits exponent =>
    let signed : Int := if negative then -(digits : Int) else digits
    if 0 ≤ exponent then decide (signed * Int.pow 10 exponent.toNat ≤ count)
    else decide (signed ≤ count * Int.pow 10 (-exponent).toNat)
  | .infinity negative => negative
  | .nan => false

/-- The whole number that the double is equal to, if there is one. -/
def whole? : Decimal → Option Int
  | .finite negative digits exponent =>
    let (num, den) := ratioTen digits exponent
    let (significand, e) := nearestDouble num den
    let size? : Option Nat :=
      if digits = 0 then some 0
      else if 0 ≤ e then some (significand * Nat.pow 2 e.toNat)
      else if significand % Nat.pow 2 (-e).toNat = 0 then
        some (significand / Nat.pow 2 (-e).toNat)
      else none
    size?.map fun size => if negative then -(size : Int) else size
  | _ => none

end Decimal

end CallAtlas
