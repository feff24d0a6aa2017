import Mermaid.Text.Quoted

/-!
# Structural problems

What the structural check can object to, and where. A problem lies within one line.
-/

namespace Mermaid

/-- A range of the source. Lines and columns count from 1, and the last column is the one after
the last character. -/
structure Span where
  firstLine : Int
  lastLine : Int
  firstCol : Int
  lastCol : Int
  deriving DecidableEq

namespace Structure

/-- What is wrong with the structure of a diagram. -/
inductive Cause
  | noDiagramType
  | unknownDiagramType (word : Text)
  | unmatched (bracket : Char)
  | unclosed (bracket : Char)
  | unexpectedEnd
  | unterminatedString
  | unclosedBlock (word : Text)
  deriving DecidableEq

/-- The text of an objection. -/
def Cause.message : Cause → String
  | .noDiagramType => "No diagram type detected"
  | .unknownDiagramType word =>
    "No diagram type detected for text: " ++ String.ofList (Text.quoted word)
  | .unmatched bracket => "Unmatched '" ++ bracket.toString ++ "'"
  | .unclosed bracket => "Unclosed '" ++ bracket.toString ++ "'"
  | .unexpectedEnd => "Unexpected 'end' without an open block"
  | .unterminatedString => "Unterminated string"
  | .unclosedBlock word => "'" ++ String.ofList word ++ "' block is never closed with 'end'"

/-- A part of one line: its number from 1, its first column from 1, and the column after it. -/
structure Place where
  line : Nat
  first : Nat
  stop : Nat
  deriving DecidableEq

/-- A place as a range of the source. -/
def Place.span (p : Place) : Span := ⟨p.line, p.line, p.first, p.stop⟩

/-- An objection and the part of the source it is about. -/
structure Problem where
  cause : Cause
  place : Option Place
  deriving DecidableEq

/-- An objection to `length` characters that start at a column counted from 0. -/
def Problem.at (cause : Cause) (line column length : Nat) : Problem :=
  ⟨cause, some ⟨line, column + 1, column + 1 + length⟩⟩

end Structure

end Mermaid
