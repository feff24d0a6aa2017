/-!
# Double precision numbers

The numbers of IEEE 754 binary64, kept as sign, integer significand and power of two, so that every
value is exact and every operation on them is exact arithmetic followed by one rounding to nearest
with ties to even.

* `Binary64.ofRatio` rounds a quotient of natural numbers, and `ofRat`, `ofInt?` and `ofDecimal`
  are its special cases;
* `Binary64.toRat?` is the exact value of a finite number;
* `Binary64.bits` is the standard's encoding.
-/

namespace Mermaid

/-- A double precision number. A finite one has the value ± significand · 2 ^ exponent, where the
significand is below 2 ^ 53 and the exponent at least -1074; the significand is below 2 ^ 52 only
when the exponent is -1074. -/
inductive Binary64
  | nan
  | infinite (negative : Bool)
  | finite (negative : Bool) (significand : Nat) (exponent : Int)
  deriving DecidableEq

namespace Binary64

/-- The zero of a sign. -/
def zero (negative : Bool) : Binary64 := .finite negative 0 (-1074)

/-- The natural number nearest to a quotient, the even one of two. -/
def roundHalfEven (num den : Nat) : Nat :=
  let q := num / den
  let r := num % den
  if 2 * r < den then q
  else if den < 2 * r then q + 1
  else q + q % 2

/-- The greatest power of two that is at most a quotient of positive numbers. -/
def binaryOrder (num den : Nat) : Int :=
  let k : Int := (num.log2 : Int) - (den.log2 : Int)
  let reached := if 0 ≤ k then den * Nat.pow 2 k.toNat ≤ num else den ≤ num * Nat.pow 2 (-k).toNat
  if reached then k else k - 1

/-- The number with the given significand and exponent, infinite when it is too large. -/
def ofParts (negative : Bool) (significand : Nat) (exponent : Int) : Binary64 :=
  let (s, e) :=
    if significand = Nat.pow 2 53 then (Nat.pow 2 52, exponent + 1) else (significand, exponent)
  if 971 < e then .infinite negative else .finite negative s e

/-- The double nearest to a quotient of natural numbers. -/
def ofRatio (negative : Bool) (num den : Nat) : Binary64 :=
  if num = 0 then zero negative
  else
    let order := binaryOrder num den - 52
    let e : Int := if order < -1074 then -1074 else order
    let s := if 0 ≤ e then roundHalfEven num (den * Nat.pow 2 e.toNat)
      else roundHalfEven (num * Nat.pow 2 (-e).toNat) den
    ofParts negative s e

/-- The double nearest to a rational number. -/
def ofRat (q : Rat) : Binary64 := ofRatio (q.num < 0) q.num.natAbs q.den

/-- The double nearest to a whole number; `none` when it would be infinite. -/
def ofInt? (i : Int) : Option Binary64 :=
  match ofRatio (i < 0) i.natAbs 1 with
  | .infinite _ => none
  | x => some x

/-- The number of decimal digits of a natural number. -/
def decimalLength (n : Nat) : Nat := (Nat.toDigits 10 n).length

/-- The double nearest to ± n · 10 ^ scale. Numbers beyond 10 ^ 400 are infinite and those below
10 ^ -400 are zero, so no power of ten is ever taken that is larger than that. -/
def ofDecimal (negative : Bool) (n : Nat) (scale : Int) : Binary64 :=
  let size : Int := decimalLength n + scale
  if n = 0 || size < -400 then zero negative
  else if 400 < size then .infinite negative
  else if 0 ≤ scale then ofRatio negative (n * Nat.pow 10 scale.toNat) 1
  else ofRatio negative n (Nat.pow 10 (-scale).toNat)

/-- The exact value of a finite number. -/
def toRat? : Binary64 → Option Rat
  | .finite negative s e =>
    let size : Rat :=
      if 0 ≤ e then (s * Nat.pow 2 e.toNat : Nat) else mkRat s (Nat.pow 2 (-e).toNat)
    some (if negative then -size else size)
  | _ => none

/-- Whether a number is zero of either sign. -/
def isZero : Binary64 → Bool
  | .finite _ s _ => s = 0
  | _ => false

/-- Whether a number lies below zero; a NaN does not. -/
def isNegative : Binary64 → Bool
  | .nan => false
  | .infinite negative => negative
  | .finite negative s _ => negative && s != 0

/-- The encoding of a number as 64 bits, with the quiet NaN for every NaN. -/
def bits : Binary64 → Nat
  | .nan => 0x7FF8000000000000
  | .infinite negative => (if negative then Nat.pow 2 63 else 0) + 0x7FF0000000000000
  | .finite negative s e =>
    (if negative then Nat.pow 2 63 else 0) +
      (if s < Nat.pow 2 52 then s else (e + 1075).toNat * Nat.pow 2 52 + (s - Nat.pow 2 52))

/-- The whole part of a finite number, toward zero. -/
def truncate? : Binary64 → Option Int
  | .finite negative s e =>
    let size : Nat := if 0 ≤ e then s * Nat.pow 2 e.toNat else s / Nat.pow 2 (-e).toNat
    some (if negative then -(size : Int) else size)
  | _ => none

end Binary64

end Mermaid
