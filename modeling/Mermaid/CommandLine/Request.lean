import Mermaid.CommandLine.Word
import Mermaid.Layout

/-!
# Requests

What a command line asks for. The words are read from left to right: a flag that is given again
takes the place of its earlier value, and the first fault ends the reading. Words that belong to no
flag are only complained about at the end.

A flag that takes one value may be given none, by a double dash behind its equals sign. It counts as
given all the same.
-/

namespace Mermaid.CommandLine

/-- What a flag that takes one value is given. -/
inductive Given (α : Type)
  | value (a : α)
  | nothing

/-- The value that a flag is given. -/
def Given.value? : Given α → Option α
  | .value a => some a
  | .nothing => none

/-- What a command line asks for. -/
structure Request where
  stdio : Bool := false
  /-- The port to listen on. -/
  tcp : Option (Given Int) := none
  /-- The files to lay out. -/
  format : Option (List String) := none
  check : Bool := false
  indentWidth : Given Int := .value Layout.defaultWidth
  version : Bool := false
  logLevel : Given LogLevel := .value .warning

/-- Why a command line leads to no request. -/
inductive Stop
  | help
  | fault (f : UsageFault)

namespace Request

/-- What has been read of a command line. -/
structure Progress where
  request : Request := {}
  /-- The flags given that exclude others. -/
  modes : List Flag := []
  /-- The words that belong to no flag. -/
  leftover : List String := []

/-- The whole number that a flag is given. -/
def integer (f : Flag) (value : String) : Except Stop Int :=
  match Text.readInteger? value.toList with
  | some i => .ok i
  | none => .error (.fault (.notInteger f value))

/-- The level of the log with a name. -/
def level (value : String) : Except Stop LogLevel :=
  match logLevels.find? fun l => l.name = value with
  | some l => .ok l
  | none => .error (.fault (.notLogLevel value))

/-- What a flag is given by its values, of which it takes one. -/
def given (read : String → Except Stop α) : List String → Except Stop (Given α)
  | [] => .ok .nothing
  | value :: _ => (read value).map .value

/-- The request with a flag and its values. -/
def withFlag (r : Request) (f : Flag) (values : List String) : Except Stop Request :=
  match f with
  | .help => .error .help
  | .stdio => .ok { r with stdio := true }
  | .tcp => do return { r with tcp := some (← given (integer f) values) }
  | .format => .ok { r with format := some values }
  | .check => .ok { r with check := true }
  | .indentWidth => do return { r with indentWidth := ← given (integer f) values }
  | .version => .ok { r with version := true }
  | .logLevel => do return { r with logLevel := ← given level values }

/-- The first flag given already that excludes another. -/
def excluder? (given : List Flag) (f : Flag) : Option Flag :=
  if Flag.modes.contains f then Flag.modes.find? fun g => g ≠ f && given.contains g else none

/-- Takes a flag with its values. -/
def take (p : Progress) (f : Flag) (values : List String) : Except Stop Progress := do
  let r ← p.request.withFlag f values
  match excluder? p.modes f with
  | some g => .error (.fault (.excluded f g))
  | none => return { p with request := r, modes := f :: p.modes }

/-- Words that belong to no flag. -/
def leave (words : List String) (p : Progress) : Progress :=
  { p with leftover := p.leftover ++ words }

/-- Takes a flag without a value of its own, and as many of the values behind it as it wants. -/
def takeBare (p : Progress) (f : Flag) (values : List String) : Except Stop Progress :=
  match f.arity, values with
  | .none, vs => leave vs <$> take p f []
  | .one, v :: vs => leave vs <$> take p f [v]
  | .oneOrMore, v :: vs => take p f (v :: vs)
  | _, [] => .error (.fault (.valueMissing f))

/-- Reads a word and the values behind it. -/
def step (p : Progress) : Word × List String → Except Stop Progress
  | (.flag f none, values) => takeBare p f values
  | (.flag f (some v), values) =>
    if f.arity = .none then .error (.fault (.valueUnused f v))
    else leave values <$> take p f (Word.explicitValues v)
  | (.cluster letters, _) => .error (match Word.clusterValue letters with
    | [] => .help
    | v => .fault (.valueUnused .help (String.ofList v)))
  | (.unknown s, values) => .ok (leave (s :: values) p)
  | (.terminator, values) => .ok (leave ("--" :: values) p)
  | (.value s, values) => .ok (leave (s :: values) p)

/-- What a command line asks for. -/
def ofArguments (args : List String) : Except Stop Request := do
  let words ← (Word.ofStrings args).mapError .fault
  let (values, groups) := Word.group words
  let p ← groups.foldlM step (leave values {})
  if p.leftover.isEmpty then return p.request
  else .error (.fault (.unrecognized p.leftover))

end Request

end Mermaid.CommandLine
