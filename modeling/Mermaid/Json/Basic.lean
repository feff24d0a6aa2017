import Mermaid.Number.Binary64

/-!
# JSON values

Whole numbers and doubles are told apart, since settings and error locations treat them
differently. The members of an object are in the order of their first appearance, each name once.
-/

namespace Mermaid

/-- A JSON value. -/
inductive Json
  | null
  | bool (b : Bool)
  | int (i : Int)
  | float (x : Binary64)
  | string (s : String)
  | array (items : List Json)
  | object (members : List (String × Json))

namespace Json

instance : Inhabited Json := ⟨.null⟩

/-- The kinds of values that hold others. -/
inductive Container
  | array
  | object
  deriving DecidableEq

/-- The word for a kind of values that hold others. -/
def Container.word : Container → String
  | .array => "array"
  | .object => "object"

/-- The members with a name set to a value; a name that is there keeps its place. -/
def setMember (name : String) (v : Json) : List (String × Json) → List (String × Json)
  | [] => [(name, v)]
  | (n, w) :: rest => if n = name then (n, v) :: rest else (n, w) :: setMember name v rest

/-- The value of a name among some members. -/
def member? (members : List (String × Json)) (name : String) : Option Json :=
  (members.find? fun m => m.1 = name).map Prod.snd

/-- The value of a name in an object; no other value has members. -/
def get? : Json → String → Option Json
  | .object members, name => member? members name
  | _, _ => none

/-- Whether a value counts as given: all do but null, false, zeros, and empty strings, arrays and
objects. -/
def isTruthy : Json → Bool
  | .null => false
  | .bool b => b
  | .int i => i != 0
  | .float x => !x.isZero
  | .string s => s != ""
  | .array items => !items.isEmpty
  | .object members => !members.isEmpty

/-- The value itself when it counts as given. -/
def given? (v : Json) : Option Json := if v.isTruthy then some v else none

end Json

end Mermaid
