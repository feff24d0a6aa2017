import Mermaid.Keyword.Views
import Mermaid.Platform
import Mermaid.Text.Blank

/-!
# Layout

A text is laid out by the block words at the start of its lines alone. Every line is trimmed and
indented by its level: a closing word lowers the level before its own line, though never below
zero, and an opening word raises it after its own line. Blank lines become empty.

* `Layout.outline` gives every line its level;
* `Layout.render` is the text laid out; a width that is not positive means no indentation;
* `Layout.format` is that text as well, unless a line cannot be indented or there is no memory.
-/

namespace Mermaid.Layout

/-- The spaces per level unless a setting says otherwise. -/
def defaultWidth : Int := 4

/-- A line to be laid out: a blank one, or a trimmed one with its level. -/
inductive Line
  | blank
  | indented (level : Nat) (text : Text)
  deriving DecidableEq

/-- The level of a trimmed line, below lines that leave the level at `level`. -/
def levelOf (level : Nat) (line : Text) : Nat :=
  if Keyword.closesBlockAt line then level - 1 else level

/-- The level that a trimmed line leaves for the lines below it. -/
def levelAfter (level : Nat) (line : Text) : Nat :=
  if Keyword.opensBlockAt line then levelOf level line + 1 else levelOf level line

/-- The lines with their levels, below lines that leave the level at `level`. -/
def outlineFrom (level : Nat) : List Text → List Line
  | [] => []
  | raw :: rest =>
    let line := Text.trim raw
    if line.isEmpty then .blank :: outlineFrom level rest
    else .indented (levelOf level line) line :: outlineFrom (levelAfter level line) rest

/-- The lines of a text with their levels. -/
def outline (t : Text) : List Line := outlineFrom 0 (Text.lines t)

/-- The spaces in front of a line of some level. -/
def indentation (width : Int) (level : Nat) : Text := List.replicate (level * width).toNat ' '

/-- A line laid out with some number of spaces per level. -/
def Line.render (width : Int) : Line → Text
  | .blank => []
  | .indented level text => indentation width level ++ text

/-- A text laid out with some number of spaces per level. -/
def render (width : Int) (t : Text) : Text :=
  Text.joinLines ((outline t).map (Line.render width))

/-! ## Texts that cannot be laid out -/

/-- Why a text cannot be laid out. -/
inductive Fault
  /-- A signed word of 64 bits cannot count the spaces in front of a line, be they more or less than
  none. -/
  | uncountable
  /-- There is no memory for the lines. -/
  | noMemory
  deriving DecidableEq

/-- The text of a fault; nothing more is said about memory that is lacking. -/
def Fault.message : Fault → String
  | .uncountable => "cannot fit 'int' into an index-sized integer"
  | .noMemory => ""

/-- The first number that a signed word of 64 bits is too small for. -/
def wordLimit : Int := Int.pow 2 63

/-- Whether a signed word of 64 bits can count some spaces. A number below zero stands for no
spaces, but has to be counted too. -/
def isCountable (count : Int) : Bool := -wordLimit ≤ count && count < wordLimit

/-- Whether the spaces in front of a line can be counted. -/
def Line.isCountable (width : Int) : Line → Bool
  | .blank => true
  | .indented level _ => Layout.isCountable (level * width)

/-- The length of a line laid out. -/
def Line.length (width : Int) : Line → Nat
  | .blank => 0
  | .indented level text => (level * width).toNat + text.length

/-- Why lines cannot be laid out, if they cannot, below lines of some lengths. Of several lines the
first one counts; at last there has to be memory for all of them in one text. -/
def faultFrom? [Platform] (width : Int) (held : List Nat) : List Line → Option Fault
  | [] =>
    let joined := held.foldl (· + ·) 0 + (held.length - 1)
    if Platform.holds (joined :: held) then none else some .noMemory
  | l :: rest =>
    if !l.isCountable width then some .uncountable
    else if !Platform.holds (l.length width :: held) then some .noMemory
    else faultFrom? width (l.length width :: held) rest

/-- Why a text cannot be laid out, if it cannot. -/
def fault? [Platform] (width : Int) (t : Text) : Option Fault := faultFrom? width [] (outline t)

/-- A text laid out with some number of spaces per level, if it can be. -/
def format [Platform] (width : Int) (t : Text) : Except Fault Text :=
  match fault? width t with
  | some f => .error f
  | none => .ok (render width t)

/-- A text that can be laid out is laid out as rendered. -/
theorem format_eq_ok_iff [Platform] {width : Int} {t s : Text} :
    format width t = .ok s ↔ fault? width t = none ∧ render width t = s := by
  unfold format
  split
  · next f h => simp [h]
  · next h => simp [h]

end Mermaid.Layout
