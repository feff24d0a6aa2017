import Mermaid.Editor.Completion
import Mermaid.Editor.Formatting
import Mermaid.Editor.Hover
import Mermaid.Editor.SemanticToken
import Mermaid.Session.Basic

/-!
# Requests to a session

What an editor asks about an open document. About a document that is not open there is no answer.
-/

namespace Mermaid.Session

/-- The part of a document that a completion at a position replaces. -/
def completion? (name : String) (p : Position) (s : Session) : Option Range :=
  (s.documents.get? name).map fun d => Completion.replacement d.text p.line p.character

/-- The documentation at a position. -/
def hover? (name : String) (p : Position) (s : Session) : Option Hover :=
  (s.documents.get? name).bind fun d => Hover.at? d.text p

/-- The edits that lay a document out, if it can be. -/
def edits? [Platform] (name : String) (s : Session) :
    Option (Except Layout.Fault (List TextEdit)) :=
  (s.documents.get? name).map fun d => Layout.edits d.text s.settings.indentWidth

/-- The tokens of a document, as the editor colours them. -/
def semanticTokens? (name : String) (s : Session) : Option (Except Unencodable (List Nat)) :=
  (s.documents.get? name).map fun d => SemanticToken.encode d.text.raw

/-- The text of a document laid out, if it can be. -/
def layout? [Platform] (name : Option String) (s : Session) : Option (Except Layout.Fault Text) :=
  (s.named? name).map fun d => Layout.format s.settings.indentWidth d.text

/-! ## Features -/

/-- The messages that a session answers. -/
def features : List String :=
  ["initialize", "textDocument/completion", "textDocument/didChange", "textDocument/didClose",
    "textDocument/didOpen", "textDocument/formatting", "textDocument/hover",
    "textDocument/semanticTokens/full", "workspace/didChangeConfiguration"]

/-- The commands that a session carries out. -/
def commands : List String :=
  ["mermaid.format", "mermaid.languageConfiguration", "mermaid.validate"]

/-- Announces the features, but only once; the answer says whether that was now. -/
def register (s : Session) : Session × Bool := ({ s with registered := true }, !s.registered)

end Mermaid.Session
