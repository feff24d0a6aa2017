import Mermaid.Clock
import Mermaid.Marker
import Mermaid.Text.Blank
import Mermaid.Validator.Command

/-!
# The validation pipeline of a document

Edits of a document are validated once typing pauses. A pipeline waits out the pause with a timer,
starts a pass of the validator, and publishes what comes of it.

    idle --update--> pending --timer--> validating --> clean | error
      ^                |  ^                                |
      +--blank update--+  +------------update--------------+

    any phase --teardown--> closed

Passes are numbered in the order they start, and a blank text takes a number too. The outcome of a
pass counts only if no higher number has been given out; a pass is never stopped for being out of
date. The markers of the document belong to the pipeline, and only it publishes them.

What a pipeline does is a function of its state and of what happens to it:

* `Pipeline.update`, `validateNow` and `teardown` are called from outside;
* `Pipeline.fire` is called by its timer, `finish` and `drop` when a pass ends.
-/

namespace Mermaid

/-- Where a pipeline stands. -/
inductive Phase
  | idle
  | pending
  | validating
  | clean
  | error
  | closed
  deriving DecidableEq

/-- What can be drawn of a document. -/
inductive RenderStatus
  | empty
  | valid
  | error
  deriving DecidableEq

/-- A pass of the validator over a text. Somebody may be waiting for its end. -/
structure Pass where
  number : Nat
  text : Text
  awaitedBy : Option Nat := none

/-- A timer that is set, told from earlier ones by its serial number. -/
structure SetTimer where
  serial : Nat
  due : Due

/-- The validation of a document. -/
structure Pipeline where
  /-- The seconds that typing has to pause. -/
  delay : Binary64
  text : Text := []
  timer : Option SetTimer := none
  /-- How many timers have been set so far. -/
  timersSet : Nat := 0
  /-- The highest number given out. -/
  issued : Nat := 0
  /-- The passes that have not ended, the oldest first. -/
  inFlight : List Pass := []
  phase : Phase := .idle
  markers : List Marker := []

/-- Whether the receivers of markers and of the status raise an error when they are called. -/
structure Receivers where
  publishFails : Bool := false
  reportFails : Bool := false

/-- What comes of something that happens to a pipeline. -/
structure Change where
  pipeline : Pipeline
  /-- The markers handed to the receiver. -/
  published : Option (List Marker) := none
  /-- The status handed to the receiver, with the message of the failure. -/
  reported : Option (RenderStatus × Option Json) := none
  /-- The pass that has been started. -/
  started : Option Pass := none
  /-- Whether the error of a receiver comes out. -/
  raised : Bool := false

namespace Pipeline

/-- Whether a pipeline has been torn down. -/
def isClosed (p : Pipeline) : Bool := p.phase = .closed

/-- Hands over an outcome: the markers first, and the status if that succeeds. -/
def apply (r : Receivers) (markers : List Marker) (status : RenderStatus) (message : Option Json)
    (p : Pipeline) : Change where
  pipeline := { p with markers := markers }
  published := some markers
  reported := if r.publishFails then none else some (status, message)
  raised := r.publishFails || r.reportFails

/-- A blank text is its own outcome, and supersedes all passes. -/
def clear (r : Receivers) (p : Pipeline) : Change :=
  apply r [] .empty none { p with issued := p.issued + 1, phase := .idle }

/-- Starts a pass over the text. -/
def start (awaitedBy : Option Nat) (p : Pipeline) : Change :=
  let pass : Pass := ⟨p.issued + 1, p.text, awaitedBy⟩
  { pipeline := { p with
      issued := p.issued + 1
      phase := .validating
      inFlight := p.inFlight ++ [pass] }
    started := some pass }

/-- A new text. It is validated when the timer that is set now falls due; a blank one is not
validated at all. -/
def update (r : Receivers) (now : Instant) (text : Text) (p : Pipeline) :
    Change × Option SetTimer :=
  if p.isClosed then ({ pipeline := p }, none)
  else
    let p := { p with timer := none, text := text }
    if Text.isBlankText text then (clear r p, none)
    else
      let timer : SetTimer := ⟨p.timersSet, .after now p.delay⟩
      ({ pipeline := { p with
          timer := some timer, timersSet := p.timersSet + 1, phase := .pending } }, some timer)

/-- Validates at once a new text, or else the one that is there. -/
def validateNow (r : Receivers) (awaitedBy : Option Nat) (text : Option Text) (p : Pipeline) :
    Change :=
  if p.isClosed then { pipeline := p }
  else
    let p := { p with timer := none, text := text.getD p.text }
    if Text.isBlankText p.text then clear r p else start awaitedBy p

/-- Ends the pipeline for good: no timer fires and no outcome counts any more. -/
def teardown (p : Pipeline) : Pipeline := { p with timer := none, phase := .closed }

/-- A timer falls due. Only the one that is set counts. -/
def fire (serial : Nat) (p : Pipeline) : Change :=
  if p.timer.any fun t => t.serial = serial then start none { p with timer := none }
  else { pipeline := p }

/-- The pass in flight with a number. -/
def pass? (number : Nat) (p : Pipeline) : Option Pass :=
  p.inFlight.find? fun pass => pass.number = number

/-- A pass ends without an outcome. -/
def drop (number : Nat) (p : Pipeline) : Pipeline :=
  { p with inFlight := p.inFlight.filter fun pass => pass.number ≠ number }

/-- The phase that an outcome leads to; a timer that is set keeps the phase. -/
def settled (phase : Phase) (p : Pipeline) : Pipeline :=
  if p.timer.isSome then p else { p with phase := phase }

/-- Takes the outcome of the newest pass. -/
def settle (r : Receivers) (v : Verdict) (p : Pipeline) : Change :=
  match v with
  | .ok () => apply r [] .valid none (p.settled .clean)
  | .error failure =>
    let marker := Marker.ofFailure failure
    apply r [marker] .error (some marker.message) (p.settled .error)

/-- A pass ends with a verdict. Its outcome is dropped after teardown and when it is out of date. -/
def finish (r : Receivers) (number : Nat) (v : Verdict) (p : Pipeline) : Change :=
  match p.pass? number with
  | none => { pipeline := p }
  | some _ =>
    let p := p.drop number
    if p.isClosed || number ≠ p.issued then { pipeline := p } else settle r v p

end Pipeline

end Mermaid
