import Mermaid.Structure.Bracket

/-!
# The structural check

Without a grammar of the language, three things can still be told: whether the diagram declares a
known kind, whether the brackets of a flowchart and the strings of any diagram are closed, and
whether blocks that end with `end` are balanced.

`Structure.check` accepts a text or names the first problem. Statements are checked in order, each
for its brackets first; what is left open at the end of the text comes last, a string before a
block.
-/

namespace Mermaid.Structure

/-- The diagram kinds that are flowcharts. -/
def flowcharts : List Text := ["graph".toList, "flowchart".toList, "flowchart-elk".toList]

/-- The words that open a block closed by `end` in a sequence diagram. -/
def sequenceBlocks : List Text :=
  ["loop", "alt", "opt", "par", "critical", "break", "rect", "box"].map String.toList

/-- Whether a diagram kind is a flowchart. -/
def isFlowchart (kind : Text) : Bool := flowcharts.contains kind

/-- The words that open a block closed by `end`, in a diagram of some kind. -/
def blockWords (kind : Text) : List Text :=
  if isFlowchart kind then ["subgraph".toList]
  else if kind = "sequenceDiagram".toList then sequenceBlocks
  else []

/-- The word that closes a block. -/
def endWord : Text := "end".toList

/-- The word at the head of a statement, with its line and its column from 0. -/
structure Head where
  word : Text
  line : Nat
  column : Nat
  deriving DecidableEq

/-- The head of a statement: the first word of its first line. -/
def head? : Statement → Option Head
  | [] => none
  | first :: rest =>
    let tokens := ((first :: rest).filter fun t => t.line = first.line).map LocatedToken.token
    (firstWord? tokens).map fun t => ⟨t.text, first.line, t.start⟩

/-- The open blocks, innermost first, after one more statement. -/
def blockStep (kind : Text) (blocks : List Head) (s : Statement) : Except Problem (List Head) :=
  match head? s with
  | none => .ok blocks
  | some head =>
    if (blockWords kind).contains head.word then .ok (head :: blocks)
    else if head.word = endWord && !(blockWords kind).isEmpty then
      match blocks with
      | _ :: rest => .ok rest
      | [] => .error (.at .unexpectedEnd head.line head.column 3)
    else .ok blocks

/-- The open blocks after one more statement whose brackets are checked as well. -/
def statementStep (kind : Text) (blocks : List Head) (s : Statement) :
    Except Problem (List Head) := do
  if isFlowchart kind then checkBrackets s
  blockStep kind blocks s

/-- What is left open at the end of a text. -/
def checkEnd (ls : List ScannedLine) (blocks : List Head) : Except Problem Unit :=
  if finalMode ls = .string then
    .error ⟨.unterminatedString, (openQuote? ls).map fun (l, quote) =>
      ⟨l.number, quote.start + 1, l.text.length + 1⟩⟩
  else match blocks with
    | [] => .ok ()
    | block :: _ =>
      .error (.at (.unclosedBlock block.word) block.line block.column block.word.length)

/-- The word that a declaration line declares: its first word, or else what stands before its first
blank. -/
def declaredWord (tokens : List Token) (line : Text) : Text :=
  match firstWord? tokens with
  | some t => t.text
  | none => (Text.words line).headD []

/-- Checks a scanned diagram; its first line is the declaration. -/
def checkLines : List ScannedLine → Except Problem Unit
  | [] => .ok ()
  | first :: rest => do
    let kind := declaredWord first.tokens first.text
    if !Keyword.isDiagramKind kind then
      .error (.at (.unknownDiagramType kind) first.number (Text.margin first.text) kind.length)
    let blocks ← (statements rest).foldlM (statementStep kind) []
    checkEnd (first :: rest) blocks

/-- Checks the structure of a text. -/
def check (t : Text) : Except Problem Unit :=
  match declaration? t with
  | none => .error ⟨.noDiagramType, none⟩
  | some d => checkLines (scanLines .root d.number (d.line :: d.rest))

/-- A check that is seen to accept a text comes to nothing. -/
theorem check_eq_ok {t : Text} (h : (check t).isOk = true) : check t = .ok () := by
  cases hc : check t with
  | error p =>
    rw [hc] at h
    cases h
  | ok u => rfl

end Mermaid.Structure
