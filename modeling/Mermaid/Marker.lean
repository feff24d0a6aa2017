import Mermaid.Validator.Failure

/-!
# Markers

A marker is what a document shows of a failed validation: a message on a range of the source, with
lines and columns from 1. A failure without a place is marked at the very first character.
-/

namespace Mermaid

/-- How serious a marker is. -/
inductive Severity
  | error
  | warning
  deriving DecidableEq

/-- The number of a severity in the protocol of the editors. -/
def Severity.code : Severity → Nat
  | .error => 1
  | .warning => 2

/-- A message on a range of the source. The message is a string unless a validator sent another
value. -/
structure Marker where
  severity : Severity
  message : Json
  startLine : Int
  startCol : Int
  endLine : Int
  endCol : Int

/-- The range of a failure without a place. -/
def Span.origin : Span := ⟨1, 1, 1, 1⟩

/-- The marker of a failed validation. -/
def Marker.ofFailure (f : Failure) : Marker :=
  let span := f.span?.getD .origin
  ⟨.error, f.message, span.firstLine, span.firstCol, span.lastLine, span.lastCol⟩

end Mermaid
