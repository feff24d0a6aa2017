import Mermaid.Json.Token

/-!
# Reading JSON

A text is read token by token. What has been read of the arrays and objects that are still open is
kept as a stack of frames, the innermost first, together with what may come next. The first token
that does not fit ends the reading, and so does one that opens an array or object inside too many
others.

`Json.read` is the value of a text, or why the text is not one JSON value.
-/

namespace Mermaid.Json

/-- Why a text is not read as a value. -/
inductive Fault
  | malformed
  /-- An array or object starts inside too many others. -/
  | tooDeep (c : Container)
  deriving DecidableEq

/-- An array or object that is still open. The items of an array are in reverse order; the name is
that of the member whose value comes next. -/
inductive Frame
  | array (items : List Json)
  | object (members : List (String × Json)) (name : String)

/-- What may come next inside the innermost frame. -/
inductive Wanted
  | value
  | itemOrClose
  | name
  | nameOrClose
  | colon
  | separatorOrClose

/-- How far a text has been read. -/
inductive Progress
  | reading (wanted : Wanted) (stack : List Frame)
  | complete (v : Json)

/-- Hands a finished value to the innermost frame. -/
def Progress.finish (v : Json) : List Frame → Progress
  | [] => .complete v
  | .array items :: stack => .reading .separatorOrClose (.array (v :: items) :: stack)
  | .object members name :: stack =>
    .reading .separatorOrClose (.object (setMember name v members) name :: stack)

/-- Opens an array or object, inside fewer than `limit` others. -/
def Progress.enter (limit : Nat) (c : Container) (stack : List Frame) : Except Fault Progress :=
  if limit ≤ stack.length then .error (.tooDeep c)
  else .ok (match c with
    | .array => .reading .itemOrClose (.array [] :: stack)
    | .object => .reading .nameOrClose (.object [] "" :: stack))

/-- The value that starts with a token where a value is wanted. -/
def Progress.start (limit : Nat) (stack : List Frame) : Token → Except Fault Progress
  | .openArray => enter limit .array stack
  | .openObject => enter limit .object stack
  | .scalar v => .ok (.finish v stack)
  | _ => .error .malformed

/-- Takes one more token. -/
def Progress.step (limit : Nat) : Progress → Token → Except Fault Progress
  | .complete _, _ => .error .malformed
  | .reading .value stack, token => Progress.start limit stack token
  | .reading .itemOrClose (.array items :: stack), .closeArray =>
    .ok (.finish (.array items.reverse) stack)
  | .reading .itemOrClose stack, token => Progress.start limit stack token
  | .reading .nameOrClose (.object members _ :: stack), .closeObject =>
    .ok (.finish (.object members) stack)
  | .reading .nameOrClose (.object members _ :: stack), .scalar (.string s)
  | .reading .name (.object members _ :: stack), .scalar (.string s) =>
    .ok (.reading .colon (.object members s :: stack))
  | .reading .colon stack, .colon => .ok (.reading .value stack)
  | .reading .separatorOrClose (.array items :: stack), .comma =>
    .ok (.reading .value (.array items :: stack))
  | .reading .separatorOrClose (.array items :: stack), .closeArray =>
    .ok (.finish (.array items.reverse) stack)
  | .reading .separatorOrClose (.object members name :: stack), .comma =>
    .ok (.reading .name (.object members name :: stack))
  | .reading .separatorOrClose (.object members _ :: stack), .closeObject =>
    .ok (.finish (.object members) stack)
  | _, _ => .error .malformed

/-- The value of a text that is one JSON value with nothing but blanks around it. Arrays and objects
may lie in each other up to a depth. -/
def read (limit : Nat) (t : Text) : Except Fault Json := do
  match ← (tokens t).foldlM (Progress.step limit) (.reading .value []) with
  | .complete v => return v
  | _ => .error .malformed

end Mermaid.Json
