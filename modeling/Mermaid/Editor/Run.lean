import Mermaid.Text.Word

/-!
# Runs of characters in a line

The editor looks for the word or glyph at a column. A line is searched from left to right for
matches that do not overlap; each is the match at the first column where there is one.

* `Run.all` lists the matches of a line;
* `Run.touching?` is the first one that a column touches, its two ends included; matches that start
  behind the column are not looked at.
-/

namespace Mermaid

/-- A match in a line: its first column and its characters. -/
structure Run where
  start : Nat
  text : Text
  deriving DecidableEq

namespace Run

/-- The column after the last character. -/
def stop (r : Run) : Nat := r.start + r.text.length

/-- Whether a column lies in a match or at one of its ends. -/
def touches (r : Run) (column : Nat) : Bool := r.start ≤ column && column ≤ r.stop

/-- The matches in the rest of a line that starts at a column; `find` gives the match at the head
of a text, empty when there is none. -/
def allFrom (find : Text → Text) (column : Nat) (line : Text) : List Run :=
  match line with
  | [] => []
  | c :: cs =>
    match find (c :: cs) with
    | [] => allFrom find (column + 1) cs
    | w :: ws =>
      ⟨column, w :: ws⟩ :: allFrom find (column + (w :: ws).length) (cs.drop ws.length)
termination_by line.length
decreasing_by all_goals simp only [List.length_cons, List.length_drop]; omega

/-- The matches in a line. -/
def all (find : Text → Text) (line : Text) : List Run := allFrom find 0 line

/-- The first of some matches that a column touches. The search ends at a match that starts behind
the column. -/
def search (column : Nat) : List Run → Option Run
  | [] => none
  | r :: rs =>
    if r.touches column then some r
    else if column < r.start then none
    else search column rs

/-- The first match that a column touches. -/
def touching? (find : Text → Text) (line : Text) (column : Nat) : Option Run :=
  search column (all find line)

/-- The run of word characters at the head of a text. -/
def wordAt (t : Text) : Text := t.takeWhile Text.isWord

/-- Whether a character may be part of an edge glyph. -/
def isGlyph (c : Char) : Bool := ['-', '=', '.', '<', '>'].contains c

/-- The word, with single hyphens inside, or else the edge glyph at the head of a text. -/
def tokenAt (t : Text) : Text :=
  if Text.headIs Text.isWord t then Text.hyphenatedRun Text.isWord t else t.takeWhile isGlyph

end Run

end Mermaid
