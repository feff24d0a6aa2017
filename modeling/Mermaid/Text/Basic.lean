/-!
# Text and its lines

Diagram source is handled as a sequence of code points, and everything that works on lines
works on the pieces between line feeds. A carriage return is an ordinary character of its line.

* `Text.lines` cuts a text into its lines; there is always at least one;
* `Text.joinLines` puts lines together again, and `joinLines_lines` says nothing is lost.
-/

namespace Mermaid

/-- A text as the sequence of its code points. -/
abbrev Text := List Char

namespace Text

/-- The pieces between line feeds. -/
def lines : Text → List Text
  | [] => [[]]
  | c :: cs =>
    if c = '\n' then [] :: lines cs
    else match lines cs with
      | [] => [[c]]
      | l :: ls => (c :: l) :: ls

/-- Lines put together with one line feed between neighbours. -/
def joinLines : List Text → Text
  | [] => []
  | [l] => l
  | l :: m :: ls => l ++ '\n' :: joinLines (m :: ls)

theorem lines_ne_nil (t : Text) : lines t ≠ [] := by
  cases t with
  | nil => simp [lines]
  | cons c cs =>
    rw [lines]
    split
    · simp
    · split <;> simp

private theorem joinLines_cons_cons (c : Char) (l : Text) (ls : List Text) :
    joinLines ((c :: l) :: ls) = c :: joinLines (l :: ls) := by
  cases ls <;> simp [joinLines]

/-- Cutting into lines loses nothing. -/
theorem joinLines_lines (t : Text) : joinLines (lines t) = t := by
  induction t with
  | nil => rfl
  | cons c cs ih =>
    rw [lines]
    split
    · next h =>
      subst h
      cases hl : lines cs with
      | nil => exact absurd hl (lines_ne_nil cs)
      | cons m ms => rw [joinLines, List.nil_append, ← hl, ih]
    · split
      · next hl => exact absurd hl (lines_ne_nil cs)
      · next l ls hl => rw [joinLines_cons_cons, ← hl, ih]

/-- The text with every carriage return, alone or before a line feed, turned into a line feed. -/
def unifyNewlines : Text → Text
  | [] => []
  | '\r' :: '\n' :: cs => '\n' :: unifyNewlines cs
  | c :: cs => (if c = '\r' then '\n' else c) :: unifyNewlines cs

end Text

end Mermaid
