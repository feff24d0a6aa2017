import Mermaid.Text.Utf8
import Mermaid.Text.Digit
import Mermaid.Json.Basic

/-!
# The tokens of JSON

Brackets, the two separators, scalars, and the blanks between them. The three words for numbers
that are not finite, `NaN`, `Infinity` and `-Infinity`, are scalars too.

* `Json.Token.at?` reads the token at the head of a text and says how long it is;
* `Json.tokens` reads a whole text; blanks are dropped, and where there is no token it ends with a
  token of its own.
-/

namespace Mermaid.Json

/-- A token: punctuation or a scalar value. -/
inductive Token
  | openArray
  | closeArray
  | openObject
  | closeObject
  | comma
  | colon
  | scalar (v : Json)
  | blank
  /-- Text that starts with no token. -/
  | unreadable

/-- The value of a hexadecimal digit. -/
def hexValue? (c : Char) : Option Nat :=
  if '0' ≤ c && c ≤ '9' then some (c.toNat - '0'.toNat)
  else if 'a' ≤ c && c ≤ 'f' then some (c.toNat - 'a'.toNat + 10)
  else if 'A' ≤ c && c ≤ 'F' then some (c.toNat - 'A'.toNat + 10)
  else none

/-- The number that hexadecimal digits stand for. -/
def hexNumber? (ds : List Char) : Option Nat :=
  ds.foldl (fun n? d => do return 16 * (← n?) + (← hexValue? d)) (some 0)

/-- What a one-letter escape stands for. -/
def simpleEscape? : Char → Option Char
  | '"' => some '"'
  | '\\' => some '\\'
  | '/' => some '/'
  | 'b' => some '\x08'
  | 'f' => some '\x0c'
  | 'n' => some '\n'
  | 'r' => some '\r'
  | 't' => some '\t'
  | _ => none

/-- Reads string content up to the closing quote, as code points and UTF-16 surrogates, together
with the length read. -/
def stringCodes? : Text → Option (List Nat × Nat)
  | [] => none
  | '"' :: _ => some ([], 1)
  | '\\' :: 'u' :: a :: b :: c :: d :: cs => do
    let (codes, width) ← stringCodes? cs
    return ((← hexNumber? [a, b, c, d]) :: codes, width + 6)
  | '\\' :: e :: cs => do
    let (codes, width) ← stringCodes? cs
    return ((← simpleEscape? e).toNat :: codes, width + 2)
  | c :: cs => do
    if c.toNat < 0x20 || c = '\\' then none
    else
      let (codes, width) ← stringCodes? cs
      return (c.toNat :: codes, width + 1)

/-- Whether a number is the first half of a surrogate pair. -/
def isHighSurrogate (n : Nat) : Bool := 0xD800 ≤ n && n < 0xDC00

/-- Whether a number is the second half of a surrogate pair. -/
def isLowSurrogate (n : Nat) : Bool := 0xDC00 ≤ n && n < 0xE000

/-- The characters that code points and surrogate pairs stand for; half a pair becomes the
replacement character. -/
def joinSurrogates : List Nat → Text
  | [] => []
  | [n] => [if isHighSurrogate n || isLowSurrogate n then Char.ofNat 0xFFFD else Char.ofNat n]
  | n :: m :: ns =>
    if isHighSurrogate n && isLowSurrogate m then
      Char.ofNat (0x10000 + (n - 0xD800) * 0x400 + (m - 0xDC00)) :: joinSurrogates ns
    else (if isHighSurrogate n || isLowSurrogate n then Char.ofNat 0xFFFD else Char.ofNat n) ::
      joinSurrogates (m :: ns)

/-- Whether a character is an ASCII digit. -/
def isAsciiDigit (c : Char) : Bool := '0' ≤ c && c ≤ '9'

/-- The natural number that ASCII digits stand for. -/
def natOfDigits (ds : List Char) : Nat :=
  Text.ofDigits (ds.map fun d => d.toNat - '0'.toNat)

/-- The fraction at the head of a text: its digits, after a point. -/
def fraction (t : Text) : List Char :=
  match t with
  | '.' :: cs => cs.takeWhile isAsciiDigit
  | _ => []

/-- The exponent at the head of a text and its length; no exponent is zero of length zero. -/
def exponent (t : Text) : Int × Nat :=
  let read (negative : Bool) (cs : Text) (mark : Nat) : Int × Nat :=
    match cs.takeWhile isAsciiDigit with
    | [] => (0, 0)
    | ds => (if negative then -(natOfDigits ds : Int) else natOfDigits ds, mark + ds.length)
  match t with
  | e :: '-' :: cs => if e = 'e' || e = 'E' then read true cs 2 else (0, 0)
  | e :: '+' :: cs => if e = 'e' || e = 'E' then read false cs 2 else (0, 0)
  | e :: cs => if e = 'e' || e = 'E' then read false cs 1 else (0, 0)
  | [] => (0, 0)

/-- The unsigned number at the head of a text and its length. A number without fraction and
exponent is whole; any other is the nearest double. -/
def number? (negative : Bool) (t : Text) : Option (Json × Nat) :=
  let whole := match t with
    | '0' :: _ => ['0']
    | cs => cs.takeWhile isAsciiDigit
  if whole.isEmpty then none
  else
    let rest := t.drop whole.length
    let frac := fraction rest
    let fracWidth := if frac.isEmpty then 0 else frac.length + 1
    let (exp, expWidth) := exponent (rest.drop fracWidth)
    let width := whole.length + fracWidth + expWidth
    if fracWidth = 0 && expWidth = 0 then
      if Text.integerDigitLimit < whole.length then none
      else
        let n : Int := natOfDigits whole
        some (.int (if negative then -n else n), width)
    else
      some (.float (.ofDecimal negative (natOfDigits (whole ++ frac)) (exp - frac.length)), width)

/-- The words that are scalars. -/
def wordScalars : List (String × Json) :=
  [("null", .null), ("true", .bool true), ("false", .bool false), ("NaN", .float .nan),
   ("Infinity", .float (.infinite false)), ("-Infinity", .float (.infinite true))]

/-- The token at the head of a text and its length. -/
def Token.at? (t : Text) : Option (Token × Nat) :=
  match t with
  | '[' :: _ => some (.openArray, 1)
  | ']' :: _ => some (.closeArray, 1)
  | '\x7b' :: _ => some (.openObject, 1)
  | '\x7d' :: _ => some (.closeObject, 1)
  | ',' :: _ => some (.comma, 1)
  | ':' :: _ => some (.colon, 1)
  | ' ' :: _ | '\t' :: _ | '\n' :: _ | '\r' :: _ => some (.blank, 1)
  | '"' :: cs => do
    let (codes, width) ← stringCodes? cs
    return (.scalar (.string (String.ofList (joinSurrogates codes))), width + 1)
  | cs =>
    match wordScalars.find? fun w => w.1.toList.isPrefixOf cs with
    | some (word, v) => some (.scalar v, word.length)
    | none => do
      let (v, width) ← match cs with
        | '-' :: ds => (number? true ds).map fun (v, w) => (v, w + 1)
        | ds => number? false ds
      return (.scalar v, width)

/-- The tokens of a text after the first `skipped` characters. -/
def tokensAfter : Nat → Text → List Token
  | _, [] => []
  | skipped + 1, _ :: cs => tokensAfter skipped cs
  | 0, c :: cs =>
    match Token.at? (c :: cs) with
    | none => [.unreadable]
    | some (.blank, width) => tokensAfter (width - 1) cs
    | some (token, width) => token :: tokensAfter (width - 1) cs

/-- The tokens of a whole text. -/
def tokens (t : Text) : List Token := tokensAfter 0 t

end Mermaid.Json
