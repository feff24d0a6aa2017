import Mermaid.Text.Basic

/-!
# Blank characters

Whitespace is the Unicode notion: the controls from tab to carriage return, the four information
separators, the space, next line, and the space and line separators of category Z. The zero width
space, the word joiner and the byte order mark are not blank.

* `Text.trim` removes blanks at both ends, `Text.trimStart` and `Text.trimEnd` at one;
* `Text.words` gives the maximal runs without a blank.
-/

namespace Mermaid.Text

/-- The blank code points. -/
def blankCodePoints : List Nat :=
  [0x9, 0xA, 0xB, 0xC, 0xD, 0x1C, 0x1D, 0x1E, 0x1F, 0x20, 0x85, 0xA0, 0x1680,
   0x2000, 0x2001, 0x2002, 0x2003, 0x2004, 0x2005, 0x2006, 0x2007, 0x2008, 0x2009, 0x200A,
   0x2028, 0x2029, 0x202F, 0x205F, 0x3000]

/-- Whether a character is blank. -/
def isBlank (c : Char) : Bool := blankCodePoints.contains c.toNat

/-- The text without its leading blanks. -/
def trimStart (t : Text) : Text := t.dropWhile isBlank

/-- The text without its trailing blanks. -/
def trimEnd (t : Text) : Text := (t.reverse.dropWhile isBlank).reverse

/-- The text without blanks at either end. -/
def trim (t : Text) : Text := trimEnd (trimStart t)

/-- Whether a text has blanks only. -/
def isBlankText (t : Text) : Bool := t.all isBlank

/-- The length of the run of blanks that a text starts with. -/
def margin (t : Text) : Nat := (t.takeWhile isBlank).length

/-- Puts a character in front of the first of some words, or starts a word with it. -/
private def prepend (c : Char) : List Text → List Text
  | [] => [[c]]
  | w :: ws => (c :: w) :: ws

/-- The maximal runs of characters that are not blank, in order. -/
def words : Text → List Text
  | [] => []
  | c :: cs =>
    if isBlank c then words cs
    else match cs with
      | [] => [[c]]
      | d :: _ => if isBlank d then [c] :: words cs else prepend c (words cs)

private theorem dropWhile_isBlank_eq_nil_iff (t : Text) :
    t.dropWhile isBlank = [] ↔ t.all isBlank = true := by
  induction t with
  | nil => simp
  | cons c cs ih => by_cases h : isBlank c = true <;> simp [h, ih]

private theorem all_dropWhile_isBlank (t : Text) :
    (t.dropWhile isBlank).all isBlank = t.all isBlank := by
  induction t with
  | nil => rfl
  | cons c cs ih => by_cases h : isBlank c = true <;> simp [h, ih]

/-- Trimming leaves nothing of a text exactly when it has blanks only. -/
theorem trim_eq_nil_iff (t : Text) : trim t = [] ↔ isBlankText t = true := by
  rw [trim, trimEnd, List.reverse_eq_nil_iff, dropWhile_isBlank_eq_nil_iff, List.all_reverse,
    trimStart, all_dropWhile_isBlank, isBlankText]

end Mermaid.Text
