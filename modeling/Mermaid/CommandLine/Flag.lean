import Mermaid.Text.Basic

/-!
# Flags

The flags of the command line, their names, and how many values each takes. The flags that choose
what the program does exclude each other.
-/

namespace Mermaid.CommandLine

/-- A flag of the command line. -/
inductive Flag
  | help
  | stdio
  | tcp
  | format
  | check
  | indentWidth
  | version
  | logLevel
  deriving DecidableEq

/-- How many values a flag takes. -/
inductive Arity
  | none
  | one
  | oneOrMore
  deriving DecidableEq

namespace Flag

/-- All flags, in the order the usage lists them. -/
def all : List Flag := [.help, .stdio, .tcp, .format, .check, .indentWidth, .version, .logLevel]

/-- The long name of a flag. -/
def longName : Flag → String
  | .help => "--help"
  | .stdio => "--stdio"
  | .tcp => "--tcp"
  | .format => "--format"
  | .check => "--check"
  | .indentWidth => "--indent-width"
  | .version => "--version"
  | .logLevel => "--log-level"

/-- The name of a flag in messages. Only the flag for help has a short name as well. -/
def name : Flag → String
  | .help => "-h/--help"
  | f => f.longName

/-- How many values a flag takes. -/
def arity : Flag → Arity
  | .tcp => .one
  | .indentWidth => .one
  | .logLevel => .one
  | .format => .oneOrMore
  | _ => .none

/-- The flags of which only one may be given. -/
def modes : List Flag := [.stdio, .tcp, .format]

/-- The flag with a long name. -/
def ofLongName? (t : Text) : Option Flag := all.find? fun f => f.longName.toList = t

/-- The flags whose long names start with a text. -/
def startingWith (t : Text) : List Flag := all.filter fun f => t.isPrefixOf f.longName.toList

/-- A flag is found by its long name. -/
theorem ofLongName?_longName (f : Flag) : ofLongName? f.longName.toList = some f := by
  cases f <;> decide

end Flag

end Mermaid.CommandLine
