import Mermaid.Editor.Position
import Mermaid.Layout

/-!
# The formatting edit

Laying out a document replaces all of it by one edit, or nothing at all when it is laid out already.
-/

namespace Mermaid.Layout

/-- The whole of a text, from its first position to the end of its last line. -/
def fullRange (t : Text) : Range :=
  let ls := Text.lines t
  ⟨⟨0, 0⟩, ⟨ls.length - 1, (ls.getLastD []).length⟩⟩

/-- The edits that turn a text into another one. -/
def editsTo (t formatted : Text) : List TextEdit :=
  if formatted = t then [] else [⟨fullRange t, formatted⟩]

/-- The edits that lay a text out, if it can be. -/
def edits [Platform] (t : Text) (width : Int) : Except Fault (List TextEdit) :=
  (format width t).map (editsTo t)

end Mermaid.Layout
