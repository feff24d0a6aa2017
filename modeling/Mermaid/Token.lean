import Mermaid.Text.Basic

/-!
# Tokens of a diagram

The classes that the lexer tells apart, and the two modes it can be in between characters.
-/

namespace Mermaid

/-- Whether a place of a line lies outside or inside a string. -/
inductive Mode
  | root
  | string
  deriving DecidableEq

/-- The class of a token. Text is what belongs to no other class. -/
inductive TokenClass
  | comment
  | delimiter
  | string
  | keyword
  | identifier
  | text
  deriving DecidableEq

/-- A token of one line, with the column of its first character. -/
structure Token where
  start : Nat
  text : Text
  kind : TokenClass
  deriving DecidableEq

/-- The column after the last character of a token. -/
def Token.stop (t : Token) : Nat := t.start + t.text.length

/-- Whether a token is a word. -/
def Token.isWord (t : Token) : Bool := t.kind = .keyword || t.kind = .identifier

end Mermaid
