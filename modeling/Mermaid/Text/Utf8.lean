import Mermaid.Text.Quoted

/-!
# UTF-8

Bytes are read left to right. At each place stands either a character or a malformed run, and a
malformed run is as long as a character could still have come of it.

* `Utf8.pieces` lists what stands in some bytes, place by place;
* `Utf8.decode` wants characters only and otherwise names the first malformed run;
* `Utf8.decodeLossy` puts one replacement character for each malformed run;
* `Utf8.encode` writes a text as bytes.
-/

namespace Mermaid

/-- The content of a file or of a pipe. -/
abbrev Bytes := List UInt8

namespace Utf8

/-- What is wrong with a malformed run. -/
inductive Defect
  | invalidStart
  | invalidContinuation
  | unexpectedEnd
  deriving DecidableEq

/-- What stands at one place of some bytes, and how many bytes it takes. -/
inductive Piece
  | char (c : Char) (width : Nat)
  | malformed (defect : Defect) (width : Nat)

/-- The bytes that a piece takes. -/
def Piece.width : Piece → Nat
  | .char _ width => width
  | .malformed _ width => width

/-- Takes `owed` more continuation bytes, the next of them between `low` and `high`, into the code
point read so far. -/
def continuation (low high : Nat) (code taken : Nat) : Nat → Bytes → Piece
  | 0, _ => .char (Char.ofNat code) taken
  | _ + 1, [] => .malformed .unexpectedEnd taken
  | owed + 1, b :: bs =>
    if low ≤ b.toNat && b.toNat ≤ high then
      continuation 0x80 0xBF (code * 64 + b.toNat % 64) (taken + 1) owed bs
    else .malformed .invalidContinuation taken

/-- What stands where byte `b` is followed by `bs`. -/
def piece (b : UInt8) (bs : Bytes) : Piece :=
  let n := b.toNat
  if n < 0x80 then .char (Char.ofNat n) 1
  else if n < 0xC2 then .malformed .invalidStart 1
  else if n < 0xE0 then continuation 0x80 0xBF (n % 32) 1 1 bs
  else if n < 0xF0 then
    continuation (if n = 0xE0 then 0xA0 else 0x80) (if n = 0xED then 0x9F else 0xBF) (n % 16) 1 2 bs
  else if n < 0xF5 then
    continuation (if n = 0xF0 then 0x90 else 0x80) (if n = 0xF4 then 0x8F else 0xBF) (n % 8) 1 3 bs
  else .malformed .invalidStart 1

/-- What stands in some bytes after the first `skipped` of them. -/
def piecesAfter : Nat → Bytes → List Piece
  | _, [] => []
  | skipped + 1, _ :: bs => piecesAfter skipped bs
  | 0, b :: bs => piece b bs :: piecesAfter ((piece b bs).width - 1) bs

/-- What stands in some bytes, place by place. -/
def pieces (bs : Bytes) : List Piece := piecesAfter 0 bs

/-- The first malformed run of some bytes: where it starts, its bytes, and what is wrong. -/
structure Malformed where
  position : Nat
  bytes : Bytes
  defect : Defect

/-- The text of what is wrong. -/
def Defect.text : Defect → String
  | .invalidStart => "invalid start byte"
  | .invalidContinuation => "invalid continuation byte"
  | .unexpectedEnd => "unexpected end of data"

/-- The message about a malformed run, which shows the byte when there is only one. -/
def Malformed.message (m : Malformed) : String :=
  let place := match m.bytes with
    | [b] =>
      "byte 0x" ++ String.ofList (Text.hexDigits 2 b.toNat) ++ " in position " ++
        toString m.position
    | bs =>
      "bytes in position " ++ toString m.position ++ "-" ++
        toString (m.position + bs.length - 1)
  "'utf-8' codec can't decode " ++ place ++ ": " ++ m.defect.text

/-- Reads pieces as characters; `position` counts the bytes before them. -/
def decodePieces (all : Bytes) : Nat → List Piece → Except Malformed Text
  | _, [] => .ok []
  | position, .char c width :: ps => do return c :: (← decodePieces all (position + width) ps)
  | position, .malformed defect width :: _ =>
    .error ⟨position, (all.drop position).take width, defect⟩

/-- The text that some bytes hold, when they are well formed. -/
def decode (bs : Bytes) : Except Malformed Text := decodePieces bs 0 (pieces bs)

/-- The text that some bytes hold, with one replacement character for each malformed run. -/
def decodeLossy (bs : Bytes) : Text :=
  (pieces bs).map fun
    | .char c _ => c
    | .malformed _ _ => Char.ofNat 0xFFFD

/-- The bytes of one character. -/
def encodeChar (c : Char) : Bytes :=
  let n := c.toNat
  if n < 0x80 then [UInt8.ofNat n]
  else if n < 0x800 then [UInt8.ofNat (0xC0 + n / 64), UInt8.ofNat (0x80 + n % 64)]
  else if n < 0x10000 then
    [UInt8.ofNat (0xE0 + n / 4096), UInt8.ofNat (0x80 + n / 64 % 64), UInt8.ofNat (0x80 + n % 64)]
  else
    [UInt8.ofNat (0xF0 + n / 262144), UInt8.ofNat (0x80 + n / 4096 % 64),
     UInt8.ofNat (0x80 + n / 64 % 64), UInt8.ofNat (0x80 + n % 64)]

/-- The bytes of a text. -/
def encode (t : Text) : Bytes := t.flatMap encodeChar

end Utf8

end Mermaid
