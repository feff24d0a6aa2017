import Mermaid.Editor.Position
import Mermaid.Marker

/-!
# Diagnostics

A marker becomes a diagnostic of the editor: its range is shifted to count from 0 and widened to one
character when it is empty. The types of the protocol decide which positions and messages there are;
a marker that needs another one has no diagnostic.

* `Diagnostic.bounds` is the range of a marker in integers;
* `Diagnostic.convert` is the diagnostic of a marker, by any types of the protocol;
* `Diagnostic.ofMarker` takes positions within the limit, and messages that are strings.
-/

namespace Mermaid

/-- A message that an editor shows on a range of a document. -/
structure Diagnostic where
  range : Range
  message : String
  severity : Severity

/-- What the types of the protocol make of values: something that can be sent, or an objection. -/
structure ProtocolTypes (ε : Type) where
  position : Int → Int → Except ε Position
  message : Json → Except ε String

namespace Diagnostic

/-- What an editor shows as the origin of a diagnostic. -/
def source : String := "mermaid"

/-- A coordinate from 1 as a coordinate from 0. -/
def shifted (n : Int) : Int := if n - 1 < 0 then 0 else n - 1

/-- The range of a marker with coordinates from 0: start line, start character, end line, and end
character. It never ends on a line above its start, and on its start line it is not empty. -/
def bounds (m : Marker) : Int × Int × Int × Int :=
  let startLine := shifted m.startLine
  let startCol := shifted m.startCol
  let endLine := if m.endLine - 1 < startLine then startLine else m.endLine - 1
  let endCol := shifted m.endCol
  let endCol := if endLine = startLine && endCol ≤ startCol then startCol + 1 else endCol
  (startLine, startCol, endLine, endCol)

/-- The range of a marker. -/
def rangeOf (types : ProtocolTypes ε) (m : Marker) : Except ε Range := do
  let (startLine, startCol, endLine, endCol) := bounds m
  return ⟨← types.position startLine startCol, ← types.position endLine endCol⟩

/-- The diagnostic of a marker; its range is looked at before its message. -/
def convert (types : ProtocolTypes ε) (m : Marker) : Except ε Diagnostic := do
  return ⟨← rangeOf types m, ← types.message m.message, m.severity⟩

/-- Why a marker has no diagnostic. -/
inductive Obstacle
  | outOfRange (e : Position.OutOfRange)
  | messageNotString

/-- The types that take positions within the limit, and strings for messages. -/
def usualTypes : ProtocolTypes Obstacle where
  position := fun line character => (Position.ofInts line character).mapError .outOfRange
  message := fun
    | .string s => .ok s
    | _ => .error .messageNotString

/-- The diagnostic of a marker by these types. -/
def ofMarker (m : Marker) : Except Obstacle Diagnostic := convert usualTypes m

/-- The diagnostics of some markers, if all of them have one. -/
def ofMarkers (ms : List Marker) : Except Obstacle (List Diagnostic) := ms.mapM ofMarker

end Diagnostic

end Mermaid
