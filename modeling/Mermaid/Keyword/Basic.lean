/-!
# Keywords

What the language knows about one of its words: its documentation, its part in the structure of a
diagram, and the diagram skeletons it offers.
-/

namespace Mermaid

/-- A diagram skeleton, with tab stops for the parts to be filled in. -/
structure Snippet where
  /-- The name it is offered under. -/
  label : String
  /-- One line that describes it. -/
  detail : String
  body : String

/-- An entry of the keyword table. -/
structure Keyword where
  name : String
  /-- Markdown documentation. -/
  doc : Option String := none
  /-- The entry is an edge glyph and not a word. -/
  glyph : Bool := false
  /-- The word declares a kind of diagram. -/
  diagram : Bool := false
  /-- The lines after a line that starts with the word are one level deeper. -/
  opensBlock : Bool := false
  /-- A line that starts with the word, and the lines after it, are one level less deep. -/
  closesBlock : Bool := false
  snippets : List Snippet := []

end Mermaid
