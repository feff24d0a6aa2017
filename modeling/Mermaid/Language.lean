/-!
# The language for editors

What an editor has to know to handle the language before any analysis: its name, its files, its
comments, and the pairs it matches and closes.
-/

namespace Mermaid

/-- The description of a language that an editor works with. -/
structure Language where
  id : String
  /-- The file name extensions, with their dots. -/
  extensions : List String
  /-- What starts a comment that runs to the end of the line. -/
  lineComment : String
  /-- The pairs matched against each other. -/
  brackets : List (String × String)
  /-- The pairs of which the second part is added when the first is typed. -/
  autoClosingPairs : List (String × String)

/-- The pairs of brackets. -/
def bracketPairs : List (String × String) := [("\x7b", "\x7d"), ("[", "]"), ("(", ")")]

/-- The description of the Mermaid language. -/
def language : Language where
  id := "mermaid"
  extensions := [".mmd", ".mermaid"]
  lineComment := "%%"
  brackets := bracketPairs
  autoClosingPairs := bracketPairs ++ [("\"", "\"")]

end Mermaid
