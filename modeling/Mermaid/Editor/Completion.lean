import Mermaid.Editor.Position
import Mermaid.Editor.Run
import Mermaid.Keyword.Views

/-!
# Completion

All keywords and all diagram skeletons are offered everywhere; the editor filters them. What is
worked out here is the text that an accepted item replaces: the word that the cursor touches.
-/

namespace Mermaid.Completion

/-- An item that is offered. -/
inductive Candidate
  | keyword (name : String)
  | snippet (s : Snippet)

/-- The name an item is offered under. -/
def Candidate.label : Candidate → String
  | .keyword name => name
  | .snippet s => s.label

/-- What an accepted item puts into the document. -/
def Candidate.insertion : Candidate → String
  | .keyword name => name
  | .snippet s => s.body

/-- The line that describes an item. -/
def Candidate.detail? : Candidate → Option String
  | .keyword _ => none
  | .snippet s => some s.detail

/-- All items: the keywords, then the skeletons, each in the order of the table. -/
def candidates : List Candidate :=
  Keyword.words.map .keyword ++ Keyword.allSnippets.map .snippet

/-- An integer moved into the range from 0 to `high`. -/
def clamp (high : Nat) (n : Int) : Nat := if n < 0 then 0 else if high < n then high else n.toNat

/-- The columns of the word that a cursor touches, empty at the cursor when it touches none. -/
def wordRange (line : Text) (character : Int) : Nat × Nat :=
  let column := clamp line.length character
  match Run.touching? Run.wordAt line column with
  | some r => (r.start, r.stop)
  | none => (column, column)

/-- The part of a text that an accepted item replaces. -/
def replacement (t : Text) (line character : Int) : Range :=
  let ls := Text.lines t
  let n := clamp (ls.length - 1) line
  let (start, stop) := wordRange (ls.getD n []) character
  .onLine n start stop

end Mermaid.Completion
