import Mermaid.Text.Quoted

/-!
# Texts with lone surrogates

A text that comes from outside may hold halves of the pairs that UTF-16 writes a character with, on
their own. Such a half is a code point, but no character, and there is no encoding for it.

* `RawText.legible` has a replacement character for each half;
* `RawText.utf16Fault?` and `RawText.utf8Fault?` say why a text cannot be encoded, if it cannot.
-/

namespace Mermaid

/-- A code point: a character, or half a pair, counted from the first of the halves. -/
inductive CodePoint
  | char (c : Char)
  | half (n : Fin 0x800)
  deriving DecidableEq

/-- A text as it may come from outside. -/
abbrev RawText := List CodePoint

/-- A text of characters. -/
def Text.raw (t : Text) : RawText := t.map .char

/-- Why a text cannot be encoded: the halves that the codec has come across, and how many code
points stand before them. -/
structure Unencodable where
  codec : String
  position : Nat
  halves : List (Fin 0x800)
  deriving DecidableEq

/-- The message about halves, which shows the half when there is only one. -/
def Unencodable.message (u : Unencodable) : String :=
  let place := match u.halves with
    | [n] =>
      "character '" ++ String.ofList ('\\' :: 'u' :: Text.hexDigits 4 (0xD800 + n.val)) ++
        "' in position " ++ toString u.position
    | ns =>
      "characters in position " ++ toString u.position ++ "-" ++
        toString (u.position + ns.length - 1)
  "'" ++ u.codec ++ "' codec can't encode " ++ place ++ ": surrogates not allowed"

namespace CodePoint

/-- A character in the place of a code point. -/
def legible : CodePoint → Char
  | .char c => c
  | .half _ => Char.ofNat 0xFFFD

/-- The half that a code point is, if it is one. -/
def half? : CodePoint → Option (Fin 0x800)
  | .char _ => none
  | .half n => some n

/-- Whether a code point is a character. -/
def isChar (p : CodePoint) : Bool := p.half?.isNone

@[simp] theorem isChar_char (c : Char) : (CodePoint.char c).isChar = true := rfl

@[simp] theorem isChar_half (n : Fin 0x800) : (CodePoint.half n).isChar = false := rfl

end CodePoint

namespace RawText

/-- A text with a replacement character for each half. -/
def legible (t : RawText) : Text := t.map CodePoint.legible

/-- The pieces between line feeds. -/
def lines : RawText → List RawText
  | [] => [[]]
  | p :: ps =>
    if p = .char '\n' then [] :: lines ps
    else match lines ps with
      | [] => [[p]]
      | l :: ls => (p :: l) :: ls

/-- The halves at the head of a text. -/
def headHalves : RawText → List (Fin 0x800)
  | .half n :: ps => n :: headHalves ps
  | _ => []

/-- What the first halves of a text are, and how many code points stand before them. -/
def halves? (t : RawText) : Option (Nat × List (Fin 0x800)) :=
  match t.dropWhile CodePoint.isChar with
  | [] => none
  | rest => some ((t.takeWhile CodePoint.isChar).length, headHalves rest)

/-- Why a text has no encoding in UTF-16, if it has none. One half is named at a time. -/
def utf16Fault? (t : RawText) : Option Unencodable :=
  t.halves?.map fun (position, halves) => ⟨"utf-16-le", position, halves.take 1⟩

/-- Why a text has no encoding in UTF-8, if it has none. All halves of a run are named. -/
def utf8Fault? (t : RawText) : Option Unencodable :=
  t.halves?.map fun (position, halves) => ⟨"utf-8", position, halves⟩

end RawText

end Mermaid
