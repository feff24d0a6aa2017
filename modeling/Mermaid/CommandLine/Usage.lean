import Mermaid.CommandLine.Flag
import Mermaid.LogLevel
import Mermaid.Text.Quoted

/-!
# Usage

What the program says about its command line: the usage, the help, and what is wrong with a command
line that cannot be understood.
-/

namespace Mermaid.CommandLine

/-- The name of the program. -/
def programName : String := "mmdlsp"

/-- The version of the program. -/
def programVersion : String := "0.1.0"

/-- How the program is called. -/
def usage : String :=
  "usage: mmdlsp [-h] [--stdio | --tcp PORT | --format FILE [FILE ...]] [--check]\n" ++
  "              [--indent-width N] [--version] [--log-level LEVEL]\n"

/-- The usage and what the flags do. -/
def help : String :=
  usage ++
  "\nMermaid diagram Language Server (LSP) for .mmd and .mermaid files.\n" ++
  "\noptions:\n" ++
  "  -h, --help            show this help message and exit\n" ++
  "  --stdio               Communicate over stdin/stdout (default when no flag\n" ++
  "                        given)\n" ++
  "  --tcp PORT            Listen for connections on the given TCP port instead\n" ++
  "                        of stdio\n" ++
  "  --format FILE [FILE ...]\n" ++
  "                        Reindent the given files in place and exit\n" ++
  "  --check               With --format: only report files that would change\n" ++
  "                        (exit 1 if any)\n" ++
  "  --indent-width N      With --format: spaces per indentation level (default:\n" ++
  "                        4)\n" ++
  "  --version             Print the mmdlsp version and exit\n" ++
  "  --log-level LEVEL     Logging level written to stderr (default: WARNING)\n"

/-- The levels of the log that can be asked for. -/
def logLevels : List LogLevel := [.debug, .info, .warning, .error, .critical]

/-- What is wrong with a command line. -/
inductive UsageFault
  /-- A word is short for more than one flag. -/
  | ambiguous (word : String) (flags : List Flag)
  | valueMissing (f : Flag)
  /-- A flag without values is given one. -/
  | valueUnused (f : Flag) (value : String)
  | notInteger (f : Flag) (value : String)
  | notLogLevel (value : String)
  /-- A flag is given after one that it excludes. -/
  | excluded (f earlier : Flag)
  | unrecognized (words : List String)
  deriving DecidableEq

/-- A text in quotes. -/
def quote (s : String) : String := String.ofList (Text.quoted s.toList)

/-- What is wrong with a flag. -/
def about (f : Flag) (text : String) : String := "argument " ++ f.name ++ ": " ++ text

/-- The text of a fault. -/
def UsageFault.message : UsageFault → String
  | .ambiguous word flags =>
    "ambiguous option: " ++ word ++ " could match " ++ ", ".intercalate (flags.map Flag.longName)
  | .valueMissing f => about f (match f.arity with
    | .oneOrMore => "expected at least one argument"
    | _ => "expected one argument")
  | .valueUnused f value => about f ("ignored explicit argument " ++ quote value)
  | .notInteger f value => about f ("invalid int value: " ++ quote value)
  | .notLogLevel value => about .logLevel ("invalid choice: " ++ quote value ++ " (choose from " ++
      ", ".intercalate (logLevels.map fun l => quote l.name) ++ ")")
  | .excluded f earlier => about f ("not allowed with argument " ++ earlier.longName)
  | .unrecognized words => "unrecognized arguments: " ++ " ".intercalate words

/-- What is shown of a fault: the usage, and a line with the text. -/
def UsageFault.report (f : UsageFault) : String :=
  usage ++ programName ++ ": error: " ++ f.message ++ "\n"

end Mermaid.CommandLine
