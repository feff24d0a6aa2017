import Mermaid.ByName
import Mermaid.Editor.Diagnostic
import Mermaid.LogLevel
import Mermaid.Pipeline.Host
import Mermaid.Settings.Resolver

/-!
# Sessions

A session keeps the documents that an editor has open, and a pipeline for each of them. All live
pipelines share the validator and the delay that the settings select. The host of a session also
keeps the pipelines of closed documents, because passes of theirs may still be under way; these are
torn down and say nothing any more.

The world around a session is its files, the program that commands run, and the connection to the
editor. What cannot be sent to the editor is dropped.
-/

namespace Mermaid

/-- An open document. -/
structure Document where
  text : Text
  version : Int

/-- What a session keeps. -/
structure Session where
  host : Host Validator := {}
  documents : ByName Document := {}
  /-- The pipelines of the open documents, by their place in the host. -/
  pipelines : ByName Nat := {}
  resolver : Resolver := {}
  settings : Settings := {}
  validator : Validator := .structural
  logLevel : LogLevel := .warning
  /-- Whether the features have been announced to the editor. -/
  registered : Bool := false

/-- The world around a session. -/
structure World where
  files : FileTree
  program : Program
  /-- Whether the editor can be reached. -/
  connected : Bool := true

/-- What can be seen of a session. -/
inductive SessionEvent
  | diagnostics (name : String) (ds : List Diagnostic)
  | status (name : String) (status : RenderStatus) (message : Option Json)
  | run (e : RunEvent)
  /-- A caller gets the markers of a document. -/
  | validated (ticket : Nat) (result : Except WaitFault (List Marker))

namespace Session

/-- The surroundings of the pipelines. Sending never raises an error. -/
def surroundings (w : World) : Surroundings Validator where
  consult := fun v t => v.consult w.program t
  receivers := fun _ => {}

/-- Markers as they are sent to the editor. They are dropped when it cannot be reached, and when one
of them has no diagnostic. -/
def sent (w : World) (name : String) (markers : List Marker) : Option SessionEvent :=
  if w.connected then
    match Diagnostic.ofMarkers markers with
    | .ok ds => some (.diagnostics name ds)
    | .error _ => none
  else none

/-- What of the pipelines can be seen outside. -/
def visible (w : World) : HostEvent → Option SessionEvent
  | .consulted _ => none
  | .run e => some (.run e)
  | .published name markers => sent w name markers
  | .reported name status message =>
    if w.connected then some (.status name status message) else none
  | .answered ticket result => some (.validated ticket result)

/-- The pipeline of an open document. -/
def pipeline? (s : Session) (name : String) : Option Pipeline :=
  ((s.pipelines.get? name).bind fun i => s.host.slots[i]?).map Slot.pipeline

/-- The document that a request names. No name and the empty one name none. -/
def named? (s : Session) : Option String → Option Document
  | none => none
  | some name => if name = "" then none else s.documents.get? name

end Session

end Mermaid
