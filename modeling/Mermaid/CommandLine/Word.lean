import Mermaid.CommandLine.Usage
import Mermaid.Text.Digit

/-!
# Words of the command line

A word of the command line is a flag, perhaps shortened and perhaps with a value behind an equals
sign, or a value. A double dash makes values of all words after it. Words that start with a dash are
values only when they look like negative numbers, or hold a space and are no flag.

`Word.ofStrings` tells the words apart, and `Word.group` puts the values behind the words that they
follow.
-/

namespace Mermaid.CommandLine

/-- A word of the command line. -/
inductive Word
  | value (s : String)
  | flag (f : Flag) (value : Option String)
  /-- The short name of the flag for help, with more letters behind it or behind an equals sign. -/
  | cluster (letters : Text)
  | unknown (s : String)
  /-- The double dash. -/
  | terminator

namespace Word

/-- A text without a newline at its end. -/
def withoutNewline (t : Text) : Text := if t.getLast? = some '\n' then t.dropLast else t

/-- Whether a text is a run of digits. -/
def areDigits (t : Text) : Bool := !t.isEmpty && t.all fun c => (Text.digitValue? c).isSome

/-- Whether a text looks like a negative number: digits, or any digits with more behind a point. -/
def isNegativeNumber : Text → Bool
  | '-' :: cs =>
    let cs := withoutNewline cs
    let fraction := cs.dropWhile fun c => (Text.digitValue? c).isSome
    areDigits cs || (fraction.head? = some '.' && areDigits fraction.tail)
  | _ => false

/-- A word cut at its first equals sign. -/
def splitAtEquals (t : Text) : Text × Option String :=
  match t.dropWhile (· ≠ '=') with
  | [] => (t, none)
  | _ :: rest => (t.takeWhile (· ≠ '='), some (String.ofList rest))

/-- A word that starts with a dash and is no flag. -/
def strange (t : Text) : Word :=
  if isNegativeNumber t || t.contains ' ' then .value (String.ofList t)
  else .unknown (String.ofList t)

/-- A word that starts with two dashes. Flags may be shortened as long as they can be told apart. -/
def ofLong (t : Text) : Except UsageFault Word :=
  let (name, given) := splitAtEquals t
  match Flag.ofLongName? name, Flag.startingWith name with
  | some f, _ => .ok (.flag f given)
  | none, [] => .ok (strange t)
  | none, [f] => .ok (.flag f given)
  | none, flags => .error (.ambiguous (String.ofList t) flags)

/-- What a word before a double dash is. -/
def ofString (s : String) : Except UsageFault Word :=
  match s.toList with
  | '-' :: '-' :: cs => ofLong ('-' :: '-' :: cs)
  | ['-', 'h'] => .ok (.flag .help none)
  | ['-', 'h', '='] => .ok (.flag .help (some ""))
  | '-' :: 'h' :: '=' :: cs => .ok (.cluster cs)
  | '-' :: 'h' :: cs => .ok (.cluster cs)
  | '-' :: c :: cs => .ok (strange ('-' :: c :: cs))
  | _ => .ok (.value s)

/-- The words of a command line. -/
def ofStrings : List String → Except UsageFault (List Word)
  | [] => .ok []
  | s :: rest =>
    if s = "--" then .ok (.terminator :: rest.map .value)
    else do return (← ofString s) :: (← ofStrings rest)

/-- The values that come first, and each other word with the values right behind it. -/
def group : List Word → List String × List (Word × List String)
  | [] => ([], [])
  | .value s :: ws => (s :: (group ws).1, (group ws).2)
  | w :: ws => ([], (w, (group ws).1) :: (group ws).2)

/-- What letters behind the short flag for help would give to it as a value. The letters of the flag
itself at their head only ask for help again. -/
def clusterValue (letters : Text) : Text := letters.dropWhile (· = 'h')

/-- The values of a flag that has one behind an equals sign. A double dash there is no value. -/
def explicitValues (v : String) : List String := if v = "--" then [] else [v]

end Word

end Mermaid.CommandLine
