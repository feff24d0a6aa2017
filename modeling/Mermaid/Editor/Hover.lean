import Mermaid.Editor.Position
import Mermaid.Editor.Run
import Mermaid.Keyword.Views

/-!
# Hover

Documentation of the keyword or edge glyph at a position.
-/

namespace Mermaid

/-- Documentation in Markdown and the part of the document it is about. -/
structure Hover where
  markdown : String
  range : Range

namespace Hover

/-- The word or glyph that a column of a line touches. -/
def tokenAt? (line : Text) (character : Int) : Option Run :=
  if character < 0 then none else Run.touching? Run.tokenAt line character.toNat

/-- The line of a text with a number from 0. -/
def lineAt? (t : Text) (line : Int) : Option Text :=
  if line < 0 then none else (Text.lines t)[line.toNat]?

/-- The documented word or glyph at a line and character, with its documentation. -/
def documented? (t : Text) (line character : Int) : Option (String × Run) := do
  let run ← tokenAt? (← lineAt? t line) character
  return (← Keyword.doc? run.text, run)

/-- The documentation at a line and character. -/
def markdown? (t : Text) (line character : Int) : Option String :=
  (documented? t line character).map Prod.fst

/-- What to show at a position. -/
def at? (t : Text) (p : Position) : Option Hover :=
  (documented? t p.line p.character).map fun (doc, run) =>
    ⟨doc, .onLine p.line run.start run.stop⟩

end Hover

end Mermaid
