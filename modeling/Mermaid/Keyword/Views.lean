import Mermaid.Keyword.Table
import Mermaid.Text.Word

/-!
# Views of the keyword table

What the lexer, the layout, the structural check and the editor features ask of the table.

* `Keyword.isKeyword`, `isDiagramKind` and `doc?` look a word up;
* `Keyword.blockWord?` finds a block word at the start of a line, where it stands as a whole word.
-/

namespace Mermaid.Keyword

/-- The words of the table, in its order. -/
def words : List String := (table.filter fun k => !k.glyph).map name

/-- The words that declare a kind of diagram. -/
def diagramKinds : List String := (table.filter diagram).map name

/-- The words that open a block. -/
def openers : List String := (table.filter opensBlock).map name

/-- The words that close a block. -/
def closers : List String := (table.filter closesBlock).map name

/-- The diagram skeletons of all entries. -/
def allSnippets : List Snippet := table.flatMap snippets

/-- The words of the table as texts. -/
def wordTexts : List Text := words.map String.toList

/-- The diagram kinds as texts. -/
def diagramKindTexts : List Text := diagramKinds.map String.toList

/-- The opening words as texts. -/
def openerTexts : List Text := openers.map String.toList

/-- The closing words as texts. -/
def closerTexts : List Text := closers.map String.toList

/-- Whether a text is a word of the table. -/
def isKeyword (w : Text) : Bool := wordTexts.contains w

/-- Whether a text declares a kind of diagram. -/
def isDiagramKind (w : Text) : Bool := diagramKindTexts.contains w

/-- The documentation of a word or glyph. -/
def doc? (w : Text) : Option String := (table.find? fun k => k.name.toList = w).bind doc

/-- Whether a line starts with a word that ends there: what follows is no word character. -/
def startsLine (line word : Text) : Bool :=
  word.isPrefixOf line && !Text.headIs Text.isWord (line.drop word.length)

/-- The longer of two texts, the first of two that are equally long. -/
def longer (v w : Text) : Text := if v.length < w.length then w else v

/-- The longest of some words that a line starts with as a whole word. -/
def blockWord? (names : List Text) (line : Text) : Option Text :=
  match names.filter (startsLine line) with
  | [] => none
  | w :: ws => some (ws.foldl longer w)

/-- Whether a line starts with a word that opens a block. -/
def opensBlockAt (line : Text) : Bool := openerTexts.any (startsLine line)

/-- Whether a line starts with a word that closes a block. -/
def closesBlockAt (line : Text) : Bool := closerTexts.any (startsLine line)

end Mermaid.Keyword
