import Mermaid.Lexer
import Mermaid.Text.Raw
import Mermaid.Text.Utf16

/-!
# Semantic tokens

The tokens of a text in the relative encoding of the editors: five numbers for each token, namely
the lines since the token before it, the columns since the start of that token or of the line, the
length, the type, and no modifiers. Columns and lengths count UTF-16 code units.

They are counted by encoding the token and what stands before it, and there is no encoding for half
a pair. To the lexer it is a sign like any other that no word has.

* `SemanticToken.absolute` are the tokens of a text with absolute coordinates;
* `SemanticToken.encode` is the relative encoding, or why there is none.
-/

namespace Mermaid.SemanticToken

/-- The number of a token's type in the legend; plain text has none. -/
def typeIndex? : TokenClass → Option Nat
  | .keyword => some 0
  | .string => some 1
  | .comment => some 2
  | .delimiter => some 3
  | .identifier => some 4
  | .text => none

/-- A token with absolute coordinates. -/
structure Absolute where
  line : Nat
  start : Nat
  length : Nat
  type : Nat
  deriving DecidableEq

/-- A token of a line in UTF-16 code units. -/
def ofToken? (number : Nat) (line : Text) (t : Token) : Option Absolute :=
  (typeIndex? t.kind).map fun type =>
    ⟨number, Text.units (line.take t.start), Text.units t.text, type⟩

/-- The tokens of some lines, the first of which has the number `number`. -/
def absoluteFrom (number : Nat) : List Text → List (List Token) → List Absolute
  | line :: lines, tokens :: rest =>
    tokens.filterMap (ofToken? number line) ++ absoluteFrom (number + 1) lines rest
  | _, _ => []

/-- The tokens of a text that have a type. -/
def absolute (t : Text) : List Absolute := absoluteFrom 0 (Text.lines t) (Lexer.tokenize t)

/-- Tokens relative to one that starts at a line and column. -/
def encodeAfter (line start : Nat) : List Absolute → List Nat
  | [] => []
  | a :: as =>
    (a.line - line) :: (if a.line = line then a.start - start else a.start) :: a.length :: a.type ::
      0 :: encodeAfter a.line a.start as

/-- Why a token of a line cannot be encoded, if it has a type and cannot: what stands before it is
encoded first, and then the token itself. -/
def tokenFault? (line : RawText) (t : Token) : Option Unencodable :=
  if (typeIndex? t.kind).isNone then none
  else (RawText.utf16Fault? (line.take t.start)).or
    (RawText.utf16Fault? ((line.drop t.start).take t.text.length))

/-- Why the tokens of some lines cannot be encoded, if they cannot. -/
def linesFault? : List RawText → List (List Token) → Option Unencodable
  | line :: lines, tokens :: rest =>
    (tokens.findSome? (tokenFault? line)).or (linesFault? lines rest)
  | _, _ => none

/-- Why the tokens of a text cannot be encoded, if they cannot. -/
def fault? (t : RawText) : Option Unencodable := linesFault? t.lines (Lexer.tokenize t.legible)

/-- The encoding of a text's tokens, if they can be encoded. -/
def encode (t : RawText) : Except Unencodable (List Nat) :=
  match fault? t with
  | some u => .error u
  | none => .ok (encodeAfter 0 0 (absolute t.legible))

end Mermaid.SemanticToken
