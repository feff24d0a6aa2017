import Mermaid.Json.Basic
import Mermaid.Structure.Problem
import Mermaid.Text.Digit
import Mermaid.Text.Raw

/-!
# How a validation fails

A validator rejects a diagram, or turns out to be unavailable, or breaks down. An external validator
describes what it rejects as a JSON object:

    {"message": "...", "hash": {"loc": {"first_line": 2, "last_line": 2,
                                        "first_column": 4, "last_column": 9}}}

`Failure.ofPayload` reads such an object. Its message is whatever value it carries, and its location
counts only when all four numbers are there.
-/

namespace Mermaid

/-- A breakdown of a validator, as opposed to an objection to a diagram. -/
inductive Fault
  /-- A breakdown described by some texts. -/
  | described (parts : List String)
  /-- A look-up of keys that are not there. -/
  | missingKey (keys : List String)
  /-- A member was looked up in a value of a kind that has none. -/
  | noMembers (kind : String)
  /-- An infinite number stood where a whole number is needed. -/
  | infiniteInteger
  /-- An array or object of a JSON text lay inside too many others. -/
  | tooDeep (c : Json.Container)
  /-- A text could not be encoded. -/
  | unencodable (u : Unencodable)
  /-- A process that was to be killed had just ended by itself. -/
  | processGone
  deriving DecidableEq

/-- Texts in quotes, in parentheses. -/
def tupleText (parts : List String) : String :=
  "(" ++ ", ".intercalate (parts.map fun p => String.ofList (Text.quoted p.toList)) ++ ")"

/-- The text of a breakdown. -/
def Fault.message : Fault → String
  | .described [] => ""
  | .described [part] => part
  | .described parts => tupleText parts
  | .missingKey [] => ""
  | .missingKey [key] => String.ofList (Text.quoted key.toList)
  | .missingKey keys => tupleText keys
  | .noMembers kind => "'" ++ kind ++ "' object has no attribute 'get'"
  | .infiniteInteger => "cannot convert float infinity to integer"
  | .tooDeep c =>
    "maximum recursion depth exceeded while decoding a JSON " ++ c.word ++ " from a unicode string"
  | .unencodable u => u.message
  | .processGone => ""

/-- A failed validation. -/
inductive Failure
  /-- The diagram is rejected, for a reason and perhaps at a place. -/
  | rejected (message : Json) (span : Option Span)
  /-- The validator could not be run. -/
  | unavailable (reason : String)
  | broken (fault : Fault)

namespace Failure

/-- The message of a failure that has no other. -/
def defaultMessage : String := "Syntax Error"

/-- A structural problem as a failed validation. -/
def ofProblem (p : Structure.Problem) : Failure :=
  .rejected (.string p.cause.message) (p.place.map Structure.Place.span)

/-- What a failure says; an empty message gives way to the default one. -/
def message : Failure → Json
  | .rejected m _ => m.given?.getD (.string defaultMessage)
  | .unavailable reason => (Json.string reason).given?.getD (.string defaultMessage)
  | .broken fault => (Json.string fault.message).given?.getD (.string defaultMessage)

/-- Where a failure lies. -/
def span? : Failure → Option Span
  | .rejected _ span => span
  | _ => none

/-! ## Failures described by a JSON object -/

/-- The word for the kind of a JSON value that is no object. -/
def kindWord : Json → String
  | .null => "NoneType"
  | .bool _ => "bool"
  | .int _ => "int"
  | .float _ => "float"
  | .string _ => "str"
  | .array _ => "list"
  | .object _ => "dict"

/-- The whole number that a value stands for, if it stands for one: numbers toward zero, booleans
as 0 and 1, and strings by their digits. -/
def wholeNumber : Json → Except Fault (Option Int)
  | .int i => .ok (some i)
  | .bool b => .ok (some (if b then 1 else 0))
  | .float (.infinite _) => .error .infiniteInteger
  | .float x => .ok x.truncate?
  | .string s => .ok (Text.readInteger? s.toList)
  | _ => .ok none

/-- The names of the four parts of a location, in the order they are read. -/
def locationKeys : List String := ["first_line", "last_line", "first_column", "last_column"]

/-- Reads parts of a location one after the other, up to the first that is no number. -/
def readParts (members : List (String × Json)) : List String → Except Fault (Option (List Int))
  | [] => .ok (some [])
  | key :: keys =>
    match Json.member? members key with
    | none => .ok none
    | some v => do
      match ← wholeNumber v with
      | none => return none
      | some i => return (← readParts members keys).map (i :: ·)

/-- The range that a location object describes. -/
def readSpan (members : List (String × Json)) : Except Fault (Option Span) := do
  match ← readParts members locationKeys with
  | some [firstLine, lastLine, firstCol, lastCol] =>
    return some ⟨firstLine, lastLine, firstCol, lastCol⟩
  | _ => return none

/-- The location of an error object: that of its `hash` if it has one, else its own. -/
def readLocation (payload : List (String × Json)) : Except Fault (Option Json) := do
  let nested ← match (Json.member? payload "hash").bind Json.given? with
    | none => pure none
    | some (.object hash) => pure (Json.member? hash "loc")
    | some other => .error (.noMembers (kindWord other))
  return match nested.bind Json.given? with
    | some loc => some loc
    | none => Json.member? payload "loc"

/-- The failure that an error object describes, or the breakdown that reading it leads to. -/
def ofMembers (payload : List (String × Json)) : Except Fault Failure := do
  let message :=
    ((Json.member? payload "message").bind Json.given?).getD (.string defaultMessage)
  match ← readLocation payload with
  | some (.object loc) => return .rejected message (← readSpan loc)
  | _ => return .rejected message none

/-- The failure that a JSON value describes; a value that is no object has no members to look up. -/
def ofPayload : Json → Except Fault Failure
  | .object payload => ofMembers payload
  | other => .error (.noMembers (kindWord other))

end Failure

end Mermaid
