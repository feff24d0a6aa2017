/-!
# Positions

A position of an editor is a line and a character, both counted from 0 and both at most
`Position.limit`. A range has its start and the position after its last character.
-/

namespace Mermaid

/-- A place between two characters of a document. -/
structure Position where
  line : Nat
  character : Nat
  deriving DecidableEq

namespace Position

/-- The largest line and character that the protocol of the editors can carry. -/
def limit : Nat := 2147483647

/-- A part of a position. -/
inductive Coordinate
  | line
  | character
  deriving DecidableEq

/-- The name of a part of a position. -/
def Coordinate.name : Coordinate → String
  | .line => "line"
  | .character => "character"

/-- A coordinate that no position can have. -/
structure OutOfRange where
  coordinate : Coordinate
  value : Int
  deriving DecidableEq

/-- The text of the objection to a coordinate. -/
def OutOfRange.message (e : OutOfRange) : String :=
  "Position." ++ e.coordinate.name ++ " should be in range [0:" ++ toString limit ++
    "], but was " ++ toString e.value ++ "."

/-- A coordinate within the limits. -/
def coordinate (c : Coordinate) (value : Int) : Except OutOfRange Nat :=
  if 0 ≤ value && value ≤ limit then .ok value.toNat else .error ⟨c, value⟩

/-- The position with the given coordinates; the line is looked at first. -/
def ofInts (line character : Int) : Except OutOfRange Position := do
  return ⟨← coordinate .line line, ← coordinate .character character⟩

end Position

/-- The part of a document between two positions. -/
structure Range where
  start : Position
  stop : Position
  deriving DecidableEq

/-- The part of one line between two characters. -/
def Range.onLine (line start stop : Nat) : Range := ⟨⟨line, start⟩, ⟨line, stop⟩⟩

/-- The replacement of a part of a document. -/
structure TextEdit where
  range : Range
  newText : List Char

end Mermaid
