import Mermaid.EventLoop
import Mermaid.Pipeline.Basic
import Mermaid.Validator.Basic

/-!
# Pipelines on an event loop

A host keeps any number of pipelines, each with a name and a validator, and does the work that they
leave to jobs: timers that fall due, passes that ask their validator, runs of commands, and callers
that wait for a pass to end. A caller is known by a ticket.

A pass asks the validator that its pipeline has when the pass gets its turn. It may be cancelled
before it has ended; then it has no outcome.

* `Host.handle` says what a job does, and `Host.machine` packs it up for the event loop;
* `Host.update`, `validateNow`, `teardown`, `release` and `cancelAll` are calls from outside.
-/

namespace Mermaid

/-- A pipeline with its name and its validator. -/
structure Slot (V : Type) where
  name : String
  validator : V
  pipeline : Pipeline

/-- A pass whose validator keeps its answer back, and the answer. -/
structure HeldPass where
  slot : Nat
  pass : Pass
  verdict : Verdict

/-- Pipelines on an event loop, known by their place in the list. -/
structure Host (V : Type) where
  slots : List (Slot V) := []
  held : List HeldPass := []
  /-- The passes that have been cancelled, by slot and number. -/
  cancelled : List (Nat × Nat) := []
  /-- How many times markers have been published. -/
  publications : Nat := 0

/-- Why a caller gets no markers. -/
inductive WaitFault
  | cancelled
  | receiverRaised
  deriving DecidableEq

/-- What can be seen of a host. -/
inductive HostEvent
  | consulted (text : Text)
  | run (e : RunEvent)
  | published (name : String) (markers : List Marker)
  | reported (name : String) (status : RenderStatus) (message : Option Json)
  /-- A caller gets the markers of a pipeline. -/
  | answered (ticket : Nat) (result : Except WaitFault (List Marker))

/-- The world around a host. -/
structure Surroundings (V : Type) where
  /-- What comes of asking a validator about a text. -/
  consult : V → Text → Consultation
  /-- How the receivers behave, after a number of publications. -/
  receivers : Nat → Receivers

/-- The work that pipelines leave to the event loop. -/
inductive HostJob
  | fire (slot serial : Nat)
  | begin (slot number : Nat)
  /-- Goes on with the run of a command after some more rounds. -/
  | follow (slot number rounds : Nat) (events : List RunEvent) (rest : Course)
  /-- Goes on with a pass whose answer is not kept back any more. -/
  | wake (slot number : Nat) (verdict : Verdict)
  /-- Validates at once for a caller who waits for the markers. -/
  | flush (ticket slot : Nat) (text : Option Text)
  /-- Lets a caller go on after the end of a pass. -/
  | resume (ticket slot : Nat) (fault : Option WaitFault)
  /-- Hands a caller the result. -/
  | deliver (ticket slot : Nat) (result : Except WaitFault (List Marker))

namespace HostJob

/-- The weight of a job: more than that of all jobs that can come of it. -/
def weight : HostJob → Nat
  | .fire .. => 13
  | .begin .. => 12
  | .follow _ _ rounds _ rest => rounds + rest.length + 1
  | .wake .. => 3
  | .flush .. => 13
  | .resume .. => 2
  | .deliver .. => 1

end HostJob

namespace Host

variable {V : Type}

/-- The host with a slot changed. -/
def setSlot (i : Nat) (s : Slot V) (h : Host V) : Host V := { h with slots := h.slots.set i s }

/-- What can be seen of a change of a pipeline. -/
def changeEvents (name : String) (c : Change) : List HostEvent :=
  (c.published.map (HostEvent.published name)).toList ++
    (c.reported.map fun (status, message) => HostEvent.reported name status message).toList

/-- The host after a change of the pipeline of a slot. -/
def afterChange (i : Nat) (s : Slot V) (c : Change) (h : Host V) : Host V :=
  { h.setSlot i { s with pipeline := c.pipeline } with
    publications := h.publications + c.published.toList.length }

/-- What comes of a change of a pipeline: what can be seen, and the pass it has started. -/
def changed (i : Nat) (s : Slot V) (c : Change) (h : Host V) :
    Reaction (Host V) HostJob HostEvent where
  state := h.afterChange i s c
  events := changeEvents s.name c
  ready := (c.started.map fun pass => HostJob.begin i pass.number).toList

/-- Nothing comes of a job. -/
def unchanged (h : Host V) : Reaction (Host V) HostJob HostEvent := { state := h }

/-- The caller who waits for a pass goes on. -/
def resumeCaller (slot : Nat) (fault : Option WaitFault) (pass : Option Pass) : List HostJob :=
  ((pass.bind Pass.awaitedBy).map fun ticket => HostJob.resume ticket slot fault).toList

/-- A pass ends with a verdict. -/
def finish (env : Surroundings V) (i number : Nat) (v : Verdict) (s : Slot V) (h : Host V) :
    Reaction (Host V) HostJob HostEvent :=
  let c := s.pipeline.finish (env.receivers h.publications) number v
  { state := h.afterChange i s c
    events := changeEvents s.name c
    ready := resumeCaller i (if c.raised then some .receiverRaised else none)
      (s.pipeline.pass? number) }

/-- A pass ends because it has been cancelled. -/
def abandon (i number : Nat) (s : Slot V) (h : Host V) : Reaction (Host V) HostJob HostEvent where
  state := h.setSlot i { s with pipeline := s.pipeline.drop number }
  ready := resumeCaller i (some .cancelled) (s.pipeline.pass? number)

/-- Goes on with the run of a command: its next stage follows after a pause. -/
def goOn (env : Surroundings V) (now : Instant) (i number : Nat) (events : List RunEvent)
    (rest : Course) (s : Slot V) (h : Host V) : Reaction (Host V) HostJob HostEvent :=
  match rest with
  | .done v =>
    let r := finish env i number v s h
    { r with events := events.map .run ++ r.events }
  | .stuck => { state := h, events := events.map .run }
  | .next (.rounds n) later rest =>
    { state := h, events := events.map .run, ready := [.follow i number n later rest] }
  | .next (.seconds d n) later rest =>
    { state := h, events := events.map .run
      timers := [⟨.at (now + d), .follow i number (n + 1) later rest⟩] }

/-- A pass asks its validator. -/
def consultFor [Platform] (env : Surroundings V) (now : Instant) (i : Nat) (pass : Pass)
    (s : Slot V) (h : Host V) : Reaction (Host V) HostJob HostEvent :=
  let r : Reaction (Host V) HostJob HostEvent := match env.consult s.validator pass.text with
    | .answers v => finish env i pass.number v s h
    | .holds v => { state := { h with held := h.held ++ [⟨i, pass, v⟩] } }
    | .runs c p =>
      goOn env now i pass.number (c.start p pass.text.raw).1 (c.start p pass.text.raw).2 s h
  { r with events := .consulted pass.text :: r.events }

/-- Whether a pass has been cancelled. -/
def isCancelled (i number : Nat) (h : Host V) : Bool := h.cancelled.contains (i, number)

/-- Validates at once for a caller. Without a pass to wait for, the caller gets the markers that are
there. -/
def flush (env : Surroundings V) (ticket i : Nat) (text : Option Text) (s : Slot V) (h : Host V) :
    Reaction (Host V) HostJob HostEvent :=
  let c := s.pipeline.validateNow (env.receivers h.publications) (some ticket) text
  let r := changed i s c h
  if c.raised then { r with ready := [.deliver ticket i (.error .receiverRaised)] }
  else if c.started.isSome then r
  else { r with ready := [.deliver ticket i (.ok c.pipeline.markers)] }

/-- What a job does to the slot it is about. -/
def handleAt [Platform] (env : Surroundings V) (now : Instant) (i : Nat) (s : Slot V) (h : Host V) :
    HostJob → Reaction (Host V) HostJob HostEvent
  | .fire _ serial => changed i s (s.pipeline.fire serial) h
  | .begin _ number =>
    if h.isCancelled i number then abandon i number s h
    else match s.pipeline.pass? number with
      | none => unchanged h
      | some pass => consultFor env now i pass s h
  | .follow _ number 0 events rest => goOn env now i number events rest s h
  | .follow _ number (n + 1) events rest =>
    { state := h, ready := [.follow i number n events rest] }
  | .wake _ number v =>
    if h.isCancelled i number then abandon i number s h else finish env i number v s h
  | .flush ticket _ text => flush env ticket i text s h
  | .resume ticket _ fault =>
    { state := h
      ready := [.deliver ticket i (match fault with
        | none => .ok s.pipeline.markers
        | some f => .error f)] }
  | .deliver ticket _ result => { state := h, events := [.answered ticket result] }

end Host

/-- The slot that a job is about. -/
def HostJob.slot : HostJob → Nat
  | .fire i _ => i
  | .begin i _ => i
  | .follow i _ _ _ _ => i
  | .wake i _ _ => i
  | .flush _ i _ => i
  | .resume _ i _ => i
  | .deliver _ i _ => i

namespace Host

variable {V : Type}

/-- What a job does. -/
def handle [Platform] (env : Surroundings V) (now : Instant) (j : HostJob) (h : Host V) :
    Reaction (Host V) HostJob HostEvent :=
  match h.slots[j.slot]? with
  | none => unchanged h
  | some s => handleAt env now j.slot s h j

/-! ## Jobs make the work lighter -/

private theorem weigh_resumeCaller_le (slot : Nat) (fault : Option WaitFault) (pass : Option Pass) :
    weigh HostJob.weight (resumeCaller slot fault pass) [] ≤ 2 := by
  unfold resumeCaller
  cases pass.bind Pass.awaitedBy <;> simp [weigh, HostJob.weight]

private theorem weigh_started_le (i : Nat) (started : Option Pass) :
    weigh HostJob.weight (started.map fun pass => HostJob.begin i pass.number).toList [] ≤ 12 := by
  cases started <;> simp [weigh, HostJob.weight]

private theorem weigh_goOn_le (env : Surroundings V) (now : Instant) (i number : Nat)
    (events : List RunEvent) (rest : Course) (s : Slot V) (h : Host V) :
    weigh HostJob.weight (goOn env now i number events rest s h).ready
      (goOn env now i number events rest s h).timers ≤ rest.length := by
  match rest with
  | .done v => exact Nat.le_trans (weigh_resumeCaller_le _ _ _) (by simp [Course.length])
  | .stuck => simp [goOn, weigh]
  | .next (.rounds n) later rest =>
    simp only [goOn, weigh, HostJob.weight, Course.length, Pause.length, List.map_cons,
      List.map_nil, total_cons, total_nil]
    omega
  | .next (.seconds d n) later rest =>
    simp only [goOn, weigh, HostJob.weight, Course.length, Pause.length, List.map_cons,
      List.map_nil, total_cons, total_nil]
    omega

private theorem weigh_consultFor_lt [Platform] (env : Surroundings V) (now : Instant) (i : Nat)
    (pass : Pass) (s : Slot V) (h : Host V) :
    weigh HostJob.weight (consultFor env now i pass s h).ready
      (consultFor env now i pass s h).timers < 12 := by
  unfold consultFor
  split
  · exact Nat.lt_of_le_of_lt (weigh_resumeCaller_le _ _ _) (by omega)
  · simp [weigh]
  · next c p _ =>
    have h₁ := Command.length_start_le c p pass.text.raw
    have h₂ := weigh_goOn_le env now i pass.number (c.start p pass.text.raw).1
      (c.start p pass.text.raw).2 s h
    exact Nat.lt_of_le_of_lt (Nat.le_trans h₂ h₁) (by omega)

private theorem weigh_flush_le (env : Surroundings V) (ticket i : Nat) (text : Option Text)
    (s : Slot V) (h : Host V) :
    weigh HostJob.weight (flush env ticket i text s h).ready
      (flush env ticket i text s h).timers ≤ 12 := by
  unfold flush
  dsimp only
  split
  · simp [weigh, HostJob.weight, changed]
  · split
    · exact weigh_started_le _ _
    · simp [weigh, HostJob.weight, changed]

private theorem weigh_handleAt_lt [Platform] (env : Surroundings V) (now : Instant) (i : Nat)
    (s : Slot V) (h : Host V) (j : HostJob) :
    weigh HostJob.weight (handleAt env now i s h j).ready (handleAt env now i s h j).timers <
      j.weight := by
  match j with
  | .fire _ serial =>
    exact Nat.lt_of_le_of_lt (weigh_started_le _ _) (by simp [HostJob.weight])
  | .begin _ number =>
    rw [handleAt]
    split
    · exact Nat.lt_of_le_of_lt (weigh_resumeCaller_le _ _ _) (by simp [HostJob.weight])
    · split
      · simp [unchanged, weigh, HostJob.weight]
      · exact weigh_consultFor_lt ..
  | .follow _ number 0 events rest =>
    rw [handleAt]
    exact Nat.lt_of_le_of_lt (weigh_goOn_le ..) (by simp only [HostJob.weight]; omega)
  | .follow _ number (n + 1) events rest =>
    simp only [handleAt, weigh, HostJob.weight, List.map_cons, List.map_nil, total_cons,
      total_nil]
    omega
  | .wake _ number v =>
    rw [handleAt]
    split <;> exact Nat.lt_of_le_of_lt (weigh_resumeCaller_le _ _ _) (by simp [HostJob.weight])
  | .flush ticket _ text =>
    exact Nat.lt_of_le_of_lt (weigh_flush_le ..) (by simp [HostJob.weight])
  | .resume ticket _ fault => simp [handleAt, weigh, HostJob.weight]
  | .deliver ticket _ result => simp [handleAt, weigh, HostJob.weight]

/-- What comes of a job weighs less than the job. -/
theorem weigh_handle_lt [Platform] (env : Surroundings V) (now : Instant) (j : HostJob)
    (h : Host V) :
    weigh HostJob.weight (handle env now j h).ready (handle env now j h).timers < j.weight := by
  unfold handle
  split
  · cases j <;> simp [unchanged, weigh, HostJob.weight]
  · exact weigh_handleAt_lt ..

/-- The work of a host, for the event loop. -/
def machine [Platform] (env : Surroundings V) : Machine (Host V) HostJob HostEvent where
  handle := handle env
  weight := HostJob.weight
  lighter := weigh_handle_lt env

/-! ## Calls from outside -/

/-- What comes of a call: what comes of it for the loop, whether the error of a receiver comes out,
and whether a pass has been started. -/
structure Call (V : Type) where
  reaction : Reaction (Host V) HostJob HostEvent
  raised : Bool := false
  started : Bool := false

/-- A new text for the pipeline of a slot. -/
def update (env : Surroundings V) (now : Instant) (i : Nat) (text : Text) (h : Host V) : Call V :=
  match h.slots[i]? with
  | none => ⟨unchanged h, false, false⟩
  | some s =>
    let (c, timer) := s.pipeline.update (env.receivers h.publications) now text
    let r := changed i s c h
    ⟨{ r with timers := (timer.map fun t => ⟨t.due, HostJob.fire i t.serial⟩).toList },
      c.raised, false⟩

/-- Validates the pipeline of a slot at once. -/
def validateNow (env : Surroundings V) (i : Nat) (text : Option Text) (h : Host V) : Call V :=
  match h.slots[i]? with
  | none => ⟨unchanged h, false, false⟩
  | some s =>
    let c := s.pipeline.validateNow (env.receivers h.publications) none text
    ⟨changed i s c h, c.raised, c.started.isSome⟩

/-- Changes the slot at a place. -/
def modifySlot (i : Nat) (f : Slot V → Slot V) (h : Host V) : Host V :=
  { h with slots := h.slots.modify i f }

/-- Ends the pipeline of a slot for good. -/
def teardown (i : Nat) (h : Host V) : Host V :=
  h.modifySlot i fun s => { s with pipeline := s.pipeline.teardown }

/-- Adds a pipeline; its place is the number of slots before. -/
def add (s : Slot V) (h : Host V) : Host V := { h with slots := h.slots ++ [s] }

/-- The jobs that wake some held passes. -/
def wakeAll (held : List HeldPass) : List HostJob :=
  held.map fun p => HostJob.wake p.slot p.pass.number p.verdict

/-- Lets the passes over a text go on that are held. -/
def release (text : Text) (h : Host V) : Reaction (Host V) HostJob HostEvent where
  state := { h with held := h.held.filter fun p => p.pass.text ≠ text }
  ready := wakeAll (h.held.filter fun p => p.pass.text = text)

/-- Cancels all passes of a slot that have not ended. -/
def cancelAll (i : Nat) (h : Host V) : Reaction (Host V) HostJob HostEvent where
  state := { h with
    held := h.held.filter fun p => p.slot ≠ i
    cancelled := ((h.slots[i]?.map fun s => s.pipeline.inFlight).getD []).map
      (fun pass => (i, pass.number)) ++ h.cancelled }
  ready := wakeAll (h.held.filter fun p => p.slot = i)

end Host

end Mermaid
