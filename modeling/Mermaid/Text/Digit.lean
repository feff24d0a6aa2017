import Mermaid.Text.Blank

/-!
# Decimal digits and whole numbers

Every script of Unicode that has decimal digits lists them as ten consecutive code points, so the
zeros alone describe all of them (category Nd, version 14.0).

* `Text.digitValue?` is what a decimal digit of any script stands for;
* `Text.readInteger?` reads a whole number: blanks around it are dropped (the information separators
  aside), a sign may lead, and a single underscore may stand between two digits. A number of more
  than `integerDigitLimit` digits is refused.
-/

namespace Mermaid.Text

/-- The zero of every run of ten decimal digits. -/
def decimalZeros : List Nat :=
  [0x30, 0x660, 0x6F0, 0x7C0, 0x966, 0x9E6, 0xA66, 0xAE6, 0xB66, 0xBE6, 0xC66, 0xCE6, 0xD66,
   0xDE6, 0xE50, 0xED0, 0xF20, 0x1040, 0x1090, 0x17E0, 0x1810, 0x1946, 0x19D0, 0x1A80, 0x1A90,
   0x1B50, 0x1BB0, 0x1C40, 0x1C50, 0xA620, 0xA8D0, 0xA900, 0xA9D0, 0xA9F0, 0xAA50, 0xABF0, 0xFF10,
   0x104A0, 0x10D30, 0x11066, 0x110F0, 0x11136, 0x111D0, 0x112F0, 0x11450, 0x114D0, 0x11650,
   0x116C0, 0x11730, 0x118E0, 0x11950, 0x11C50, 0x11D50, 0x11DA0, 0x16A60, 0x16AC0, 0x16B50,
   0x1D7CE, 0x1D7D8, 0x1D7E2, 0x1D7EC, 0x1D7F6, 0x1E140, 0x1E2F0, 0x1E950, 0x1FBF0]

/-- The value of a decimal digit of any script. -/
def digitValue? (c : Char) : Option Nat :=
  (decimalZeros.find? fun z => z ≤ c.toNat && c.toNat < z + 10).map (c.toNat - ·)

/-- The most digits that a whole number may be written with. -/
def integerDigitLimit : Nat := 4300

/-- The digits of a number in which single underscores may separate digits; `none` when there is
no digit, an underscore at either end or two together, or any other character. -/
def separatedDigits? (t : Text) : Option (List Nat) :=
  match t with
  | [] => none
  | [c] => (digitValue? c).map ([·])
  | c :: '_' :: cs => do return (← digitValue? c) :: (← separatedDigits? cs)
  | c :: cs => do return (← digitValue? c) :: (← separatedDigits? cs)

/-- The number that decimal digits, the most significant first, stand for. -/
def ofDigits (ds : List Nat) : Nat := ds.foldl (fun n d => 10 * n + d) 0

/-- Whether a character may stand around a number: a blank other than an information separator. -/
def isNumberMargin (c : Char) : Bool := isBlank c && !(0x1C ≤ c.toNat && c.toNat ≤ 0x1F)

/-- The text without the blanks around a number. -/
def trimNumber (t : Text) : Text :=
  ((t.dropWhile isNumberMargin).reverse.dropWhile isNumberMargin).reverse

/-- The whole number that a text spells. -/
def readInteger? (t : Text) : Option Int := do
  let (negative, digits) := match trimNumber t with
    | '-' :: cs => (true, cs)
    | '+' :: cs => (false, cs)
    | cs => (false, cs)
  let ds ← separatedDigits? digits
  if ds.length > integerDigitLimit then none
  else
    let n : Int := ofDigits ds
    return if negative then -n else n

end Mermaid.Text
