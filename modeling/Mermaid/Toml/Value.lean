import Mermaid.Number.Binary64

/-!
# TOML values

A document is a table. Dates and times are told apart from all other values, and nothing more is
kept of them.
-/

namespace Mermaid.Toml

/-- A TOML value. The entries of a table are in the order in which their keys first appear. -/
inductive Value
  | boolean (b : Bool)
  | integer (i : Int)
  | float (x : Binary64)
  | string (s : String)
  /-- A date, a time, or both. -/
  | moment
  | array (items : List Value)
  /-- An array whose items are tables opened by headers. -/
  | tables (items : List (List (String × Value)))
  | table (entries : List (String × Value))

/-- The entries of a table. -/
abbrev Table := List (String × Value)

/-- The value of a key in a table. -/
def Table.get? (t : Table) (key : String) : Option Value :=
  (t.find? fun e => e.1 = key).map Prod.snd

/-- The table with a key set to a value; a key that is there keeps its place. -/
def Table.set (key : String) (v : Value) : Table → Table
  | [] => [(key, v)]
  | (k, w) :: rest => if k = key then (k, v) :: rest else (k, w) :: Table.set key v rest

/-- A key with its dotted parts. -/
abbrev Key := List String

/-- Why a text is not read as a document. -/
inductive Fault
  | malformed
  /-- A whole number is written with more digits than are read. -/
  | integerTooLong (digits : Nat)
  /-- A value lies inside too many others. -/
  | tooDeep
  deriving DecidableEq

end Mermaid.Toml
