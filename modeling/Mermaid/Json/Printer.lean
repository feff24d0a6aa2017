import Mermaid.Json.Basic
import Mermaid.Text.Quoted

/-!
# Writing JSON

A value on one line without blanks. Strings keep every character but quotes, backslashes and
controls, which are escaped. A double is written by its exact decimal expansion.
-/

namespace Mermaid.Json

/-- One character inside a JSON string. -/
def escapedChar (c : Char) : Text :=
  if c = '"' || c = '\\' then ['\\', c]
  else if c.toNat < 0x20 || 0x7F ≤ c.toNat && c.toNat < 0xA0 then
    '\\' :: 'u' :: Text.hexDigits 4 c.toNat
  else [c]

/-- A string between double quotes. -/
def renderString (s : String) : String :=
  "\"" ++ String.ofList (s.toList.flatMap escapedChar) ++ "\""

/-- The exact decimal expansion of a double. -/
def renderFloat : Binary64 → String
  | .nan => "NaN"
  | .infinite negative => if negative then "-Infinity" else "Infinity"
  | .finite negative s e =>
    (if negative then "-" else "") ++
      (if 0 ≤ e then toString (s * Nat.pow 2 e.toNat) ++ ".0"
       else toString (s * Nat.pow 5 (-e).toNat) ++ "e-" ++ toString (-e).toNat)

mutual

/-- A value as JSON text. -/
def render : Json → String
  | .null => "null"
  | .bool b => if b then "true" else "false"
  | .int i => toString i
  | .float x => renderFloat x
  | .string s => renderString s
  | .array items => "[" ++ ",".intercalate (renderItems items) ++ "]"
  | .object members => "\x7b" ++ ",".intercalate (renderMembers members) ++ "\x7d"

/-- The items of an array, each as JSON text. -/
def renderItems : List Json → List String
  | [] => []
  | v :: vs => render v :: renderItems vs

/-- The members of an object, each as name and value. -/
def renderMembers : List (String × Json) → List String
  | [] => []
  | (name, v) :: ms => (renderString name ++ ":" ++ render v) :: renderMembers ms

end

end Mermaid.Json
