import Mermaid.Text.Quoted

/-!
# Paths

A path is kept in its normal form: without empty parts and without parts that name the directory
they stand in. Parts that name the parent directory stay, since they may lead through a link.
-/

namespace Mermaid

/-- A path in normal form. -/
structure Path where
  /-- What stands before the first part: nothing, or the slash or two of an absolute path. -/
  anchor : String
  parts : List String
  deriving DecidableEq

namespace Path

/-- The pieces of a text between slashes. -/
def pieces : Text → List Text
  | [] => [[]]
  | c :: cs =>
    if c = '/' then [] :: pieces cs
    else match pieces cs with
      | [] => [[c]]
      | p :: ps => (c :: p) :: ps

/-- The anchor of a path: exactly two leading slashes are kept, more count as one. -/
def anchorOf (t : Text) : String :=
  match (t.takeWhile (· = '/')).length with
  | 0 => ""
  | 2 => "//"
  | _ => "/"

/-- The path that a name spells. -/
def ofString (name : String) : Path :=
  ⟨anchorOf name.toList,
    ((pieces name.toList).filter fun p => !p.isEmpty && p ≠ ['.']).map String.ofList⟩

/-- The path of an entry of a directory. -/
def child (p : Path) (part : String) : Path := ⟨p.anchor, p.parts ++ [part]⟩

/-- The name of a path. -/
def toString (p : Path) : String :=
  match p.anchor ++ "/".intercalate p.parts with
  | "" => "."
  | name => name

/-- Whether a path leads from the root of all files. -/
def isAbsolute (p : Path) : Bool := p.anchor ≠ ""

end Path

end Mermaid
