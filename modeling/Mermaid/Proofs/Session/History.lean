import Mermaid.Proofs.EventLoop.Schedule
import Mermaid.Session.Configuration
import Mermaid.Session.Documents
import Mermaid.Session.Requests

/-!
# Histories of a session

A session answers the requests of an editor and does the jobs that these leave, in any order: timers
fall due and passes end at any time. The world around it may be another one each time.

* `Session.Request` lists the requests, and `Session.answer` says what comes of each;
* `Session.History` strings requests and jobs together;
* `heldText` is the text that a document has after some requests, as the editor sees it.
-/

namespace Mermaid

namespace Session

/-- What an editor asks of a session. -/
inductive Request
  | begin (root : Option String) (options : Settings.Options)
  | configure (options : Settings.Options)
  | openDocument (name : String) (text : Text) (version : Int)
  | changeDocument (name : String) (texts : List Text) (version : Int)
  | closeDocument (name : String)
  | validateDocument (ticket : Nat) (name : Option String)
  | layOut (name : Option String)

/-- What comes of a request. A request that is refused leaves what it had done until then, and
laying out a document only reads it. -/
def answer [Platform] (w : World) (now : Instant) (s : Session) :
    Request → Reaction Session SessionJob SessionEvent
  | .begin root options => { state := (s.begin w.files root options).session }
  | .configure options => { state := (s.configure w.files options).session }
  | .openDocument name text version => s.openDocument w name text version
  | .changeDocument name texts version =>
    (s.changeDocument? w now name texts version).getD { state := s }
  | .closeDocument name => s.closeDocument w name
  | .validateDocument ticket name => s.validateDocument ticket name
  | .layOut _ => { state := s }

/-- The scenes that requests and jobs can lead to, with the requests that have been answered. -/
inductive History [Platform] : List Request → Scene Session SessionJob SessionEvent → Prop
  | start : History [] { state := {} }
  | request {qs : List Request} {sc : Scene Session SessionJob SessionEvent} (w : World)
      (now : Instant) (q : Request) : History qs sc →
        History (qs ++ [q]) (Scene.after (sc.state.answer w now q) sc.jobs sc.events)
  | work {qs : List Request} {sc : Scene Session SessionJob SessionEvent} {j : SessionJob}
      {rest : List SessionJob} (w : World) (now : Instant) : History qs sc →
        sc.jobs.Perm (j :: rest) →
        History qs (Scene.after (handle w now j sc.state) rest sc.events)

/-- An event loop that works for a session goes on with its history. -/
theorem History.run [Platform] {qs : List Request} {w : World} (limit : Instant)
    (l : EventLoop Session SessionJob) {sc : Scene Session SessionJob SessionEvent}
    (hsc : History qs sc) (hl : l.IsShownBy sc) :
    ∃ sc', History qs sc' ∧ (EventLoop.run (machine w) limit l).1.IsShownBy sc' ∧
      sc'.events = sc.events ++ (EventLoop.run (machine w) limit l).2 := by
  have hstays : (machine w).StaysIn (History qs) :=
    fun now _ _ _ hsc hjobs => .work w now hsc hjobs
  exact hstays.run limit l hsc hl

/-! ## The texts of documents -/

/-- The text of a document after a request. An opened document has the text that came with it, a
changed one the last of the new texts, if there is any; a closed one has none. -/
def Request.textAfter (name : String) (held : Option Text) : Request → Option Text
  | .openDocument other text _ => if other = name then some text else held
  | .changeDocument other texts _ => if other = name then texts.getLast?.or held else held
  | .closeDocument other => if other = name then none else held
  | _ => held

/-- The text of a document after some requests, if it is open then. -/
def heldText (qs : List Request) (name : String) : Option Text :=
  qs.foldl (fun held q => q.textAfter name held) none

lemma heldText_concat (qs : List Request) (q : Request) (name : String) :
    heldText (qs ++ [q]) name = q.textAfter name (heldText qs name) := by
  rw [heldText, List.foldl_append]
  rfl

end Session

end Mermaid
