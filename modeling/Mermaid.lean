import Mermaid.ByName
import Mermaid.Clock
import Mermaid.CommandLine.Flag
import Mermaid.CommandLine.Request
import Mermaid.CommandLine.Run
import Mermaid.CommandLine.Usage
import Mermaid.CommandLine.Word
import Mermaid.Editor.Completion
import Mermaid.Editor.Diagnostic
import Mermaid.Editor.Formatting
import Mermaid.Editor.Hover
import Mermaid.Editor.Position
import Mermaid.Editor.Run
import Mermaid.Editor.SemanticToken
import Mermaid.EventLoop
import Mermaid.Files.Path
import Mermaid.Files.Tree
import Mermaid.Json.Basic
import Mermaid.Json.Printer
import Mermaid.Json.Reader
import Mermaid.Json.Token
import Mermaid.Keyword.Basic
import Mermaid.Keyword.Table
import Mermaid.Keyword.Views
import Mermaid.Language
import Mermaid.Layout
import Mermaid.Lexer
import Mermaid.LogLevel
import Mermaid.Main
import Mermaid.Marker
import Mermaid.Number.Binary64
import Mermaid.Number.General
import Mermaid.Pipeline.Basic
import Mermaid.Pipeline.Host
import Mermaid.Platform
import Mermaid.Proofs.Pipeline.Run
import Mermaid.Reformat
import Mermaid.Session.Basic
import Mermaid.Session.Configuration
import Mermaid.Session.Documents
import Mermaid.Session.Requests
import Mermaid.Session.Work
import Mermaid.Settings.Basic
import Mermaid.Settings.Field
import Mermaid.Settings.Resolver
import Mermaid.Structure.Bracket
import Mermaid.Structure.Check
import Mermaid.Structure.Problem
import Mermaid.Structure.Statement
import Mermaid.Text.Basic
import Mermaid.Text.Blank
import Mermaid.Text.CodePoints
import Mermaid.Text.Digit
import Mermaid.Text.Printable
import Mermaid.Text.Quoted
import Mermaid.Text.Raw
import Mermaid.Text.Utf16
import Mermaid.Text.Utf8
import Mermaid.Text.Word
import Mermaid.Token
import Mermaid.Toml.Reader
import Mermaid.Toml.Scalar
import Mermaid.Toml.Value
import Mermaid.Validator.Basic
import Mermaid.Validator.Command
import Mermaid.Validator.Failure
import Mermaid.Proofs.Pipeline.Supersession
import Mermaid.Proofs.Pipeline.Settlement
import Mermaid.Proofs.EventLoop.Schedule
import Mermaid.Proofs.EventLoop.Ticking
import Mermaid.Proofs.Pipeline.Callers
import Mermaid.Proofs.Text.Lines
import Mermaid.Proofs.Lexer.Blanks
import Mermaid.Proofs.Structure.Brackets
import Mermaid.Proofs.Structure.Statements
import Mermaid.Proofs.Structure.Blocks
import Mermaid.Proofs.Structure.Declaration
import Mermaid.Proofs.Structure.Acceptance
import Mermaid.Proofs.Structure.Reading
import Mermaid.Proofs.Structure.Trimming
import Mermaid.Proofs.Layout.Verdict
import Mermaid.Proofs.Pipeline.Hosting
import Mermaid.Proofs.Settings.Choice
import Mermaid.Proofs.Session.History
import Mermaid.Proofs.Session.Serving
import Mermaid.Proofs.Session.Consistency
import Mermaid.Proofs.Text.CodeUnits
import Mermaid.Proofs.Layout.Editing
import Mermaid.Proofs.Pipeline.Passes
import Mermaid.Proofs.Pipeline.Records
import Mermaid.Proofs.Pipeline.Waiting
import Mermaid.Proofs.Pipeline.Cancellation
import Mermaid.Proofs.Lexer.Tiling
import Mermaid.Proofs.Editor.RelativeEncoding
import Mermaid.Proofs.Pipeline.Phases
import Mermaid.Proofs.Pipeline.Notices
import Mermaid.Proofs.Session.Slots
import Mermaid.Proofs.Session.Silence
import Mermaid.Proofs.Settings.Fields
import Mermaid.Proofs.Settings.Cascade
import Mermaid.Proofs.Session.Configuring
import Mermaid.Proofs.EventLoop.Timing
import Mermaid.Proofs.Pipeline.Turns
import Mermaid.Proofs.Pipeline.Timers
import Mermaid.Proofs.Pipeline.Calls
import Mermaid.Proofs.Pipeline.Debounce
import Mermaid.Proofs.Session.Display
import Mermaid.Proofs.Number.Sign
import Mermaid.Proofs.Settings.Usability
import Mermaid.Proofs.Session.Usability
import Mermaid.Proofs.Text.Utf8
import Mermaid.Proofs.Files.Agreement
import Mermaid.Proofs.Layout.Nesting
import Mermaid.Proofs.EventLoop.Excerpt
import Mermaid.Proofs.Pipeline.Moving
import Mermaid.Proofs.Session.Alone
import Mermaid.Proofs.Session.Playing
import Mermaid.Proofs.Session.Isolation
import Mermaid.Proofs.Lexer.Words
import Mermaid.Proofs.Lexer.Scanning
import Mermaid.Proofs.Lexer.Comments
import Mermaid.Proofs.Structure.Openings
import Mermaid.Proofs.Structure.Quotes
import Mermaid.Proofs.Structure.Pointing
import Mermaid.Proofs.Structure.CodeBrackets
import Mermaid.Proofs.Validator.Objection
import Mermaid.Proofs.Layout.Canonical
import Mermaid.Proofs.Layout.Depth
import Mermaid.Proofs.Lexer.Literals
import Mermaid.Proofs.Layout.Literals
import Mermaid.Proofs.Keyword.WholeWords
import Mermaid.Proofs.Structure.Renumbering
import Mermaid.Proofs.Structure.Insertion
import Mermaid.Proofs.Files.Relaying
import Mermaid.Proofs.Files.Skipping
import Mermaid.Proofs.Editor.Matches
import Mermaid.Proofs.Editor.TouchedWord
import Mermaid.Proofs.Editor.WordColumns
import Mermaid.Proofs.Editor.DiagnosticRange
import Mermaid.Proofs.Editor.TypedKeyword
import Mermaid.Proofs.Editor.TokenColumns
import Mermaid.Proofs.Editor.HoveredToken
import Mermaid.Proofs.Validator.Courses
import Mermaid.Proofs.Validator.Lifetime
