import Mermaid.Number.Binary64

/-!
# Numbers in general notation

A number shown with six significant digits: positionally when its decimal exponent lies between
-4 and 5, with an exponent of at least two digits otherwise, and without trailing zeros.
-/

namespace Mermaid.Binary64

/-- The significant digits of general notation. -/
def generalPrecision : Nat := 6

/-- The greatest power of ten that is at most a quotient of positive numbers. -/
def decimalOrder (num den : Nat) : Int :=
  if den ≤ num then (decimalLength (num / den) : Int) - 1
  else -(decimalLength ((den - 1) / num) : Int)

/-- A quotient rounded to the significant digits of general notation: the digits as one number and
the power of ten of the first of them. -/
def significantDigits (num den : Nat) : Nat × Int :=
  let order := decimalOrder num den
  let scale : Int := (generalPrecision : Int) - 1 - order
  let n := if 0 ≤ scale then roundHalfEven (num * Nat.pow 10 scale.toNat) den
    else roundHalfEven num (den * Nat.pow 10 (-scale).toNat)
  if n = Nat.pow 10 generalPrecision then (Nat.pow 10 (generalPrecision - 1), order + 1)
  else (n, order)

/-- Digits without the zeros at their end. -/
def dropTrailingZeros (ds : List Char) : List Char :=
  (ds.reverse.dropWhile (· = '0')).reverse

/-- Digits with a point after the first `whole` of them, and no point when nothing follows it. -/
def withPoint (whole : Nat) (ds : List Char) : List Char :=
  match dropTrailingZeros (ds.drop whole) with
  | [] => ds.take whole
  | fraction => ds.take whole ++ '.' :: fraction

/-- An exponent with its sign and at least two digits. -/
def exponentText (e : Int) : List Char :=
  let ds := Nat.toDigits 10 e.natAbs
  'e' :: (if e < 0 then '-' else '+') :: (if ds.length < 2 then '0' :: ds else ds)

/-- A positive quotient in general notation. -/
def generalRatio (num den : Nat) : List Char :=
  let (n, order) := significantDigits num den
  let ds := Nat.toDigits 10 n
  if order < -4 || (generalPrecision : Int) ≤ order then withPoint 1 ds ++ exponentText order
  else if 0 ≤ order then withPoint (order.toNat + 1) ds
  else withPoint 1 (List.replicate (-order).toNat '0' ++ ds)

/-- A number in general notation. -/
def general : Binary64 → String
  | .nan => "nan"
  | .infinite negative => if negative then "-inf" else "inf"
  | .finite negative s e =>
    let size :=
      if s = 0 then ['0']
      else if 0 ≤ e then generalRatio (s * Nat.pow 2 e.toNat) 1
      else generalRatio s (Nat.pow 2 (-e).toNat)
    String.ofList (if negative then '-' :: size else size)

end Mermaid.Binary64
