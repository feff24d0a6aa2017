import Mermaid.Lexer
import Mermaid.Text.Blank

/-!
# Declaration and statements

A diagram starts with its declaration: the first line that is neither front matter between `---`
lines, nor blank, nor a comment. The lines from there on are lexed, and the ones after the
declaration are grouped into statements. A statement goes on while a string is open at the end of a
line.

* `Structure.declaration?` finds the declaration;
* `Structure.scanLines` lexes the lines from there on;
* `Structure.statements` groups them;
* `Structure.openQuote?` is the quote of a string still open at the end.
-/

namespace Mermaid.Structure

/-- The declaration of a diagram: the number of its line, the line, and the lines after it. -/
structure Declaration where
  number : Nat
  line : Text
  rest : List Text
  deriving DecidableEq

/-- The line that opens and closes front matter. -/
def frontMatterMark : Text := ['-', '-', '-']

/-- Whether a trimmed line may stand before the declaration outside front matter. -/
def isSkippable (line : Text) : Bool := line.isEmpty || ['%', '%'].isPrefixOf line

/-- The declaration among some lines, the first of which has the number `number`. -/
def declarationFrom? (inFrontMatter : Bool) (number : Nat) : List Text → Option Declaration
  | [] => none
  | line :: rest =>
    let trimmed := Text.trim line
    if trimmed = frontMatterMark then declarationFrom? (!inFrontMatter) (number + 1) rest
    else if inFrontMatter || isSkippable trimmed then
      declarationFrom? inFrontMatter (number + 1) rest
    else some ⟨number, line, rest⟩

/-- The declaration of a text. -/
def declaration? (t : Text) : Option Declaration := declarationFrom? false 1 (Text.lines t)

/-- A line with its number and tokens, and the lexer's mode after it. -/
structure ScannedLine where
  number : Nat
  text : Text
  tokens : List Token
  mode : Mode

/-- Lexes some lines, the first of which has the number `number`. -/
def scanLines (mode : Mode) (number : Nat) : List Text → List ScannedLine
  | [] => []
  | line :: rest =>
    let (tokens, next) := Lexer.classify mode line
    ⟨number, line, tokens, next⟩ :: scanLines next (number + 1) rest

/-- A token with the number of its line. -/
structure LocatedToken where
  line : Nat
  token : Token

/-- The tokens of a line, each with the number of the line. -/
def ScannedLine.located (l : ScannedLine) : List LocatedToken := l.tokens.map (⟨l.number, ·⟩)

/-- The tokens of a group of lines that belong together. -/
abbrev Statement := List LocatedToken

/-- The statements of some lines, below lines whose unfinished statement is `pending`. Lines without
tokens make no statement, and neither does a group whose string is never closed. -/
def statementsAfter (pending : Statement) : List ScannedLine → List Statement
  | [] => []
  | l :: ls =>
    let statement := pending ++ l.located
    if l.mode = .string || statement.isEmpty then statementsAfter statement ls
    else statement :: statementsAfter [] ls

/-- The statements of some lines. -/
def statements (ls : List ScannedLine) : List Statement := statementsAfter [] ls

/-- The first word among some tokens, when nothing but blanks stands before it. -/
def firstWord? : List Token → Option Token
  | [] => none
  | t :: ts =>
    if t.isWord then some t
    else if Text.isBlankText t.text then firstWord? ts
    else none

/-- The last quote of a line. -/
def ScannedLine.lastQuote? (l : ScannedLine) : Option Token :=
  (l.tokens.filter fun t => t.text = ['"']).getLast?

/-- The quote that opens a string in a line and leaves it open at the end of the line. -/
def ScannedLine.openingQuote? (l : ScannedLine) : Option (ScannedLine × Token) :=
  if l.mode = .string then l.lastQuote?.map (l, ·) else none

/-- The last opening quote of some lines, with its line. -/
def openQuote? (ls : List ScannedLine) : Option (ScannedLine × Token) :=
  (ls.filterMap ScannedLine.openingQuote?).getLast?

/-- The mode after some lines. -/
def finalMode (ls : List ScannedLine) : Mode := (ls.getLast?.map ScannedLine.mode).getD .root

end Mermaid.Structure
