import Mermaid.Structure.Problem
import Mermaid.Structure.Statement

/-!
# Brackets of a flowchart statement

Round, square and curly brackets have to be nested properly. Directly after a word, `>` opens a
node shape that `]` closes; anywhere else it is part of an arrow.

`Structure.checkBrackets` finds the first bracket that does not fit, or the innermost one left open.
-/

namespace Mermaid.Structure

/-- A bracket that is still open. -/
structure OpenBracket where
  bracket : Char
  line : Nat
  column : Nat

/-- The bracket that a closing bracket belongs to. -/
def partner? : Char → Option Char
  | ')' => some '('
  | ']' => some '['
  | '\x7d' => some '\x7b'
  | _ => none

/-- Whether a closing bracket closes an open one. -/
def closes (close : Char) (opened : Char) : Bool :=
  partner? close = some opened || (close = ']' && opened = '>')

/-- Whether a bracket opens, after a token. -/
def opensAfter (previous : Option Token) (c : Char) : Bool :=
  ['(', '[', '\x7b'].contains c || (c = '>' && previous.any Token.isWord)

/-- The open brackets, innermost first, after one more delimiter. -/
def bracketStep (stack : List OpenBracket) (previous : Option Token) (line column : Nat)
    (c : Char) : Except Problem (List OpenBracket) :=
  if opensAfter previous c then .ok (⟨c, line, column⟩ :: stack)
  else if (partner? c).isNone then .ok stack
  else match stack with
    | top :: rest =>
      if closes c top.bracket then .ok rest else .error (.at (.unmatched c) line column 1)
    | [] => .error (.at (.unmatched c) line column 1)

/-- The single character of a delimiter, if it is one. -/
def bracketOf? (t : Token) : Option Char :=
  match t.kind, t.text with
  | .delimiter, [c] => some c
  | _, _ => none

/-- Goes on with some open brackets through the tokens of a statement. -/
def checkBracketsFrom (stack : List OpenBracket) (previous : Option Token) :
    Statement → Except Problem Unit
  | [] =>
    match stack with
    | [] => .ok ()
    | top :: _ => .error (.at (.unclosed top.bracket) top.line top.column 1)
  | ⟨line, t⟩ :: rest => do
    let stack ← match bracketOf? t with
      | some c => bracketStep stack previous line t.start c
      | none => .ok stack
    checkBracketsFrom stack (some t) rest

/-- Checks the brackets of a statement. -/
def checkBrackets (s : Statement) : Except Problem Unit := checkBracketsFrom [] none s

end Mermaid.Structure
