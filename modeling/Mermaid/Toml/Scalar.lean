import Mermaid.Json.Token
import Mermaid.Toml.Value

/-!
# TOML strings, numbers and times

Each reader takes what it can from the head of a text and gives the rest.

* `Toml.string?` reads the four kinds of string;
* `Toml.moment?` reads a date, a time, or both;
* `Toml.number?` reads whole numbers in four bases and floats.
-/

namespace Mermaid.Toml

/-- Whether a character is a blank within a line. -/
def isSpace (c : Char) : Bool := c = ' ' || c = '\t'

/-- Whether a character is a blank or a line feed. -/
def isSpaceOrNewline (c : Char) : Bool := isSpace c || c = '\n'

/-- Whether a character is a control other than a tab. -/
def isControl (c : Char) : Bool := (c.toNat < 0x20 && c ≠ '\t') || c.toNat = 0x7F

/-- Whether a character may not stand in a string; only a string of several lines may hold line
feeds. -/
def isIllegal (multiline : Bool) (c : Char) : Bool := isControl c && !(multiline && c = '\n')

/-! ## Strings -/

/-- What an escape of one letter stands for. -/
def letterEscape? : Char → Option Char
  | 'b' => some '\x08'
  | 't' => some '\t'
  | 'n' => some '\n'
  | 'f' => some '\x0c'
  | 'r' => some '\r'
  | '"' => some '"'
  | '\\' => some '\\'
  | _ => none

/-- The character that some number of hexadecimal digits stand for; a surrogate is none. -/
def hexEscape? (width : Nat) (t : Text) : Option Char := do
  let ds := t.take width
  if ds.length < width then none
  let n ← Json.hexNumber? ds
  if n < 0xD800 || (0xE000 ≤ n && n < 0x110000) then some (Char.ofNat n) else none

/-- The blanks and line feeds that an escaped line end leaves out. -/
def lineEnd? (t : Text) : Option Nat :=
  let blanks := t.takeWhile isSpace
  match t.drop blanks.length with
  | [] => some blanks.length
  | '\n' :: rest => some (blanks.length + 1 + (rest.takeWhile isSpaceOrNewline).length)
  | _ => none

/-- What an escape stands for, and how many characters follow its backslash. -/
def escape? (multiline : Bool) (t : Text) : Option (Text × Nat) :=
  match t with
  | 'u' :: rest => (hexEscape? 4 rest).map fun c => ([c], 5)
  | 'U' :: rest => (hexEscape? 8 rest).map fun c => ([c], 9)
  | c :: _ =>
    if multiline && isSpaceOrNewline c then (lineEnd? t).map fun width => ([], width)
    else (letterEscape? c).map fun e => ([e], 1)
  | [] => none

/-- The content of a string with escapes after its first `skipped` characters, and the number of
characters up to the end of its closing quotes. -/
def basicContent? (multiline : Bool) : Nat → Text → Option (Text × Nat)
  | _, [] => none
  | skipped + 1, _ :: cs =>
    (basicContent? multiline skipped cs).map fun (content, width) => (content, width + 1)
  | 0, '"' :: cs =>
    if !multiline then some ([], 1)
    else if ['"', '"'].isPrefixOf cs then some ([], 3)
    else (basicContent? multiline 0 cs).map fun (content, width) => ('"' :: content, width + 1)
  | 0, '\\' :: cs => do
    let (escaped, length) ← escape? multiline cs
    let (content, width) ← basicContent? multiline length cs
    return (escaped ++ content, width + 1)
  | 0, c :: cs =>
    if isIllegal multiline c then none
    else (basicContent? multiline 0 cs).map fun (content, width) => (c :: content, width + 1)

/-- The text before the first occurrence of a mark, and the text after it. -/
def splitAt? (mark : Text) : Text → Option (Text × Text)
  | [] => none
  | c :: cs =>
    if mark.isPrefixOf (c :: cs) then some ([], (c :: cs).drop mark.length)
    else (splitAt? mark cs).map fun (before, after) => (c :: before, after)

/-- The text without the line feed right after opening quotes. -/
def dropFirstNewline (t : Text) : Text :=
  match t with
  | '\n' :: cs => cs
  | cs => cs

/-- Adds up to two quotes that stand right after three closing ones to the content. -/
def takeExtraQuotes (quote : Char) (content rest : Text) : Text × Text :=
  let extra := (rest.take 2).takeWhile (· = quote)
  (content ++ extra, rest.drop extra.length)

/-- The string with escapes after its opening quotes. -/
def basicString? (multiline : Bool) (t : Text) : Option (Text × Text) :=
  (basicContent? multiline 0 t).map fun (content, width) => (content, t.drop width)

/-- The string without escapes after its opening quotes. -/
def literalString? (multiline : Bool) (t : Text) : Option (Text × Text) := do
  let mark := if multiline then ['\'', '\'', '\''] else ['\'']
  let (content, rest) ← splitAt? mark t
  if content.any (isIllegal multiline) then none else some (content, rest)

/-- A string on one line. -/
def lineString? (t : Text) : Option (Text × Text) :=
  match t with
  | '"' :: cs => basicString? false cs
  | '\'' :: cs => literalString? false cs
  | _ => none

/-- A string of any kind. -/
def string? (t : Text) : Option (Text × Text) :=
  match t with
  | '"' :: '"' :: '"' :: cs => do
    let (content, rest) ← basicString? true (dropFirstNewline cs)
    return takeExtraQuotes '"' content rest
  | '\'' :: '\'' :: '\'' :: cs => do
    let (content, rest) ← literalString? true (dropFirstNewline cs)
    return takeExtraQuotes '\'' content rest
  | _ => lineString? t

/-! ## Dates and times -/

/-- A number of exactly `width` digits within limits, and the rest. -/
def fixedNumber? (width low high : Nat) (t : Text) : Option (Nat × Text) :=
  let ds := t.take width
  let n := Json.natOfDigits ds
  if ds.length = width && ds.all Json.isAsciiDigit && low ≤ n && n ≤ high then
    some (n, t.drop width)
  else none

/-- The text after a character. -/
def after? (c : Char) : Text → Option Text
  | [] => none
  | d :: cs => if d = c then some cs else none

/-- The text after a fraction of a second, if there is one. -/
def dropFraction (t : Text) : Text :=
  match Json.fraction t with
  | [] => t
  | ds => t.drop (ds.length + 1)

/-- The text after a time of day. -/
def time? (t : Text) : Option Text := do
  let (_, t) ← fixedNumber? 2 0 23 t
  let (_, t) ← fixedNumber? 2 0 59 (← after? ':' t)
  let (_, t) ← fixedNumber? 2 0 59 (← after? ':' t)
  return dropFraction t

/-- The text after an offset from universal time, if there is one. -/
def dropOffset (t : Text) : Text :=
  match t with
  | c :: cs =>
    if c = 'Z' || c = 'z' then cs
    else if c = '+' || c = '-' then
      (do
        let (_, cs) ← fixedNumber? 2 0 23 cs
        let (_, cs) ← fixedNumber? 2 0 59 (← after? ':' cs)
        return cs).getD t
    else t
  | [] => []

/-- The days of a month. -/
def daysOfMonth (year month : Nat) : Nat :=
  if month = 2 then
    if year % 4 = 0 && (year % 100 ≠ 0 || year % 400 = 0) then 29 else 28
  else if [4, 6, 9, 11].contains month then 30
  else 31

/-- A date as year, month and day, and the rest. -/
def date? (t : Text) : Option ((Nat × Nat × Nat) × Text) := do
  let (year, t) ← fixedNumber? 4 0 9999 t
  let (month, t) ← fixedNumber? 2 1 12 (← after? '-' t)
  let (day, t) ← fixedNumber? 2 1 31 (← after? '-' t)
  return ((year, month, day), t)

/-- The text after the time that may follow a date. -/
def dropTimeOfDate (t : Text) : Text :=
  match t with
  | c :: cs =>
    if c = 'T' || c = 't' || c = ' ' then ((time? cs).map dropOffset).getD t else t
  | [] => []

/-- The text after a date or time; a day that the calendar does not have is a fault. -/
def moment? (t : Text) : Option (Except Fault Text) :=
  match date? t with
  | some ((year, month, day), rest) =>
    some (if year = 0 || daysOfMonth year month < day then .error .malformed
      else .ok (dropTimeOfDate rest))
  | none => (time? t).map .ok

/-! ## Numbers -/

/-- Digits after a digit, with single underscores between them, and the rest. -/
def moreDigits (p : Char → Bool) : Text → List Char × Text
  | [] => ([], [])
  | '_' :: c :: cs =>
    if p c then
      let (ds, rest) := moreDigits p cs
      (c :: ds, rest)
    else ([], '_' :: c :: cs)
  | c :: cs =>
    if p c then
      let (ds, rest) := moreDigits p cs
      (c :: ds, rest)
    else ([], c :: cs)

/-- One or more digits with single underscores between them, and the rest. -/
def digits? (p : Char → Bool) : Text → Option (List Char × Text)
  | [] => none
  | c :: cs =>
    if p c then
      let (ds, rest) := moreDigits p cs
      some (c :: ds, rest)
    else none

/-- A whole number in base two, eight or sixteen. -/
def basedInteger? (t : Text) : Option (Int × Text) := do
  let (base, limit, cs) ← match t with
    | '0' :: 'x' :: cs => some (16, 16, cs)
    | '0' :: 'o' :: cs => some (8, 8, cs)
    | '0' :: 'b' :: cs => some (2, 2, cs)
    | _ => none
  let isDigit (c : Char) : Bool := (Json.hexValue? c).any (· < limit)
  let (ds, rest) ← digits? isDigit cs
  return ((ds.foldl (fun n d => base * n + (Json.hexValue? d).getD 0) 0 : Nat), rest)

/-- The fraction digits after a point, if there are any, and the rest. -/
def fractionDigits (t : Text) : List Char × Text :=
  match t with
  | '.' :: cs => (digits? Json.isAsciiDigit cs).getD ([], t)
  | _ => ([], t)

/-- An exponent after its letter. -/
def signedDigits? (t : Text) : Option (Int × Text) :=
  match t with
  | '-' :: cs => (digits? Json.isAsciiDigit cs).map fun (ds, r) => (-(Json.natOfDigits ds : Int), r)
  | '+' :: cs => (digits? Json.isAsciiDigit cs).map fun (ds, r) => ((Json.natOfDigits ds : Int), r)
  | cs => (digits? Json.isAsciiDigit cs).map fun (ds, r) => ((Json.natOfDigits ds : Int), r)

/-- The exponent at the head of a text, if there is one, and the rest. -/
def exponent? (t : Text) : Option (Int × Text) :=
  match t with
  | e :: cs => if e = 'e' || e = 'E' then signedDigits? cs else none
  | [] => none

/-- The digits before the point: a zero alone, or digits that do not start with one. -/
def wholeDigits? (t : Text) : Option (List Char × Text) :=
  match t with
  | '0' :: cs => some (['0'], cs)
  | cs => digits? Json.isAsciiDigit cs

/-- The sign at the head of a text, and the rest. -/
def takeSign (t : Text) : Bool × Text :=
  match t with
  | '-' :: cs => (true, cs)
  | '+' :: cs => (false, cs)
  | cs => (false, cs)

/-- A number in base ten: whole without fraction and exponent, a float otherwise. -/
def decimal? (t : Text) : Option (Except Fault (Value × Text)) := do
  let (negative, t) := takeSign t
  let (whole, t) ← wholeDigits? t
  let (frac, t) := fractionDigits t
  match frac, exponent? t with
  | [], none =>
    if Text.integerDigitLimit < whole.length then some (.error (.integerTooLong whole.length))
    else
      let n : Int := Json.natOfDigits whole
      some (.ok (.integer (if negative then -n else n), t))
  | _, some (e, t) =>
    let digits := Json.natOfDigits (whole ++ frac)
    some (.ok (.float (.ofDecimal negative digits (e - frac.length)), t))
  | _, none =>
    some (.ok (.float (.ofDecimal negative (Json.natOfDigits (whole ++ frac)) (-frac.length)), t))

/-- The words for floats that are not finite. -/
def wordFloats : List (String × Binary64) :=
  [("inf", .infinite false), ("nan", .nan), ("-inf", .infinite true), ("+inf", .infinite false),
   ("-nan", .nan), ("+nan", .nan)]

/-- A number of any kind. -/
def number? (t : Text) : Option (Except Fault (Value × Text)) :=
  match basedInteger? t with
  | some (i, rest) => some (.ok (.integer i, rest))
  | none =>
    match decimal? t with
    | some r => some r
    | none =>
      (wordFloats.find? fun w => w.1.toList.isPrefixOf t).map fun (word, x) =>
        .ok (.float x, t.drop word.length)

end Mermaid.Toml
