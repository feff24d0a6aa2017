import Mermaid.Session.Basic

/-!
# The work of a session

A session does the work of its pipelines, and validates documents for callers who wait for the
markers. A caller is known by a ticket, and the document is looked up when the job gets its turn.

* `Session.machine` is the work of a session, for the event loop;
* `Session.pipelineFor` gives a document its pipeline.
-/

namespace Mermaid

/-- The work that a session leaves to the event loop. -/
inductive SessionJob
  | host (j : HostJob)
  /-- Validates a document for a caller. -/
  | validate (ticket : Nat) (name : Option String)
  /-- Tells a caller that there is nothing to mark. -/
  | answerNothing (ticket : Nat)

/-- The weight of a job: more than that of all jobs that can come of it. -/
def SessionJob.weight : SessionJob → Nat
  | .host j => j.weight
  | .validate .. => 13
  | .answerNothing _ => 1

namespace Session

/-- What comes of the pipelines, as what comes of the session. -/
def lift (w : World) (s : Session) (r : Reaction (Host Validator) HostJob HostEvent) :
    Reaction Session SessionJob SessionEvent where
  state := { s with host := r.state }
  events := r.events.filterMap (visible w)
  ready := r.ready.map .host
  timers := r.timers.map fun t => ⟨t.due, .host t.job⟩

/-- The session with a pipeline for a document, and the place of the pipeline. A pipeline that is
new has the validator and the delay of the session. -/
def pipelineFor (name : String) (s : Session) : Session × Nat :=
  match s.pipelines.get? name with
  | some i => (s, i)
  | none =>
    let i := s.host.slots.length
    ({ s with
        host := s.host.add ⟨name, s.validator, { delay := s.settings.debounce }⟩
        pipelines := s.pipelines.insert name i }, i)

/-- Validates the document that a caller has named. -/
def validateFor [Platform] (w : World) (now : Instant) (ticket : Nat) (name : Option String)
    (s : Session) :
    Reaction Session SessionJob SessionEvent :=
  match name, s.named? name with
  | some name, some doc =>
    let (s, i) := s.pipelineFor name
    s.lift w (s.host.handle (surroundings w) now (.flush ticket i (some doc.text)))
  | _, _ => { state := s, ready := [.answerNothing ticket] }

/-- What a job does. -/
def handle [Platform] (w : World) (now : Instant) (j : SessionJob) (s : Session) :
    Reaction Session SessionJob SessionEvent :=
  match j with
  | .host j => s.lift w (s.host.handle (surroundings w) now j)
  | .validate ticket name => validateFor w now ticket name s
  | .answerNothing ticket => { state := s, events := [.validated ticket (.ok [])] }

/-! ## Every job makes the work lighter -/

private theorem weigh_lift (w : World) (s : Session)
    (r : Reaction (Host Validator) HostJob HostEvent) :
    weigh SessionJob.weight (s.lift w r).ready (s.lift w r).timers =
      weigh HostJob.weight r.ready r.timers := by
  have h : SessionJob.weight ∘ SessionJob.host = HostJob.weight := rfl
  simp only [weigh, lift, List.map_map, h]
  rfl

/-- What comes of a job weighs less than the job. -/
theorem weigh_session_lt [Platform] (w : World) (now : Instant) (j : SessionJob) (s : Session) :
    weigh SessionJob.weight (handle w now j s).ready (handle w now j s).timers < j.weight := by
  match j with
  | .host j =>
    rw [handle, weigh_lift]
    exact Host.weigh_handle_lt ..
  | .validate ticket name =>
    rw [handle]
    unfold validateFor
    split
    · rw [weigh_lift]
      exact Host.weigh_handle_lt ..
    · simp [weigh, SessionJob.weight]
  | .answerNothing ticket => simp [handle, weigh, SessionJob.weight]

/-- The work of a session, for the event loop. -/
def machine [Platform] (w : World) : Machine Session SessionJob SessionEvent where
  handle := handle w
  weight := SessionJob.weight
  lighter := weigh_session_lt w

end Session

end Mermaid
