import Mermaid.Session.Work

/-!
# Documents of a session

The editor opens, changes and closes documents. A document is validated as soon as it is opened, and
after a change when typing pauses; closing it clears what the editor shows of it.
-/

namespace Mermaid.Session

/-- The editor opens a document. -/
def openDocument (w : World) (name : String) (text : Text) (version : Int) (s : Session) :
    Reaction Session SessionJob SessionEvent :=
  let (s, i) := { s with documents := s.documents.insert name ⟨text, version⟩ }.pipelineFor name
  s.lift w (s.host.validateNow (surroundings w) i (some text)).reaction

/-- The editor gives a document a new text. -/
def changeTo (w : World) (now : Instant) (name : String) (text : Text) (version : Int)
    (s : Session) : Reaction Session SessionJob SessionEvent :=
  let (s, i) := { s with documents := s.documents.insert name ⟨text, version⟩ }.pipelineFor name
  s.lift w (s.host.update (surroundings w) now i text).reaction

/-- The editor changes a document. Of several texts the last one counts; a change without a text is
refused, and changes nothing. -/
def changeDocument? (w : World) (now : Instant) (name : String) (texts : List Text) (version : Int)
    (s : Session) : Option (Reaction Session SessionJob SessionEvent) :=
  texts.getLast?.map fun text => changeTo w now name text version s

/-- The host after the pipeline of a document has been ended. -/
def teardownOf (name : String) (s : Session) : Host Validator :=
  match s.pipelines.get? name with
  | some i => s.host.teardown i
  | none => s.host

/-- The editor closes a document, open or not. -/
def closeDocument (w : World) (name : String) (s : Session) :
    Reaction Session SessionJob SessionEvent where
  state := { s with
    host := s.teardownOf name
    documents := s.documents.erase name
    pipelines := s.pipelines.erase name }
  events := (sent w name []).toList

/-- A caller asks for the markers of a document, validated anew. -/
def validateDocument (ticket : Nat) (name : Option String) (s : Session) :
    Reaction Session SessionJob SessionEvent where
  state := s
  ready := [.validate ticket name]

end Mermaid.Session
