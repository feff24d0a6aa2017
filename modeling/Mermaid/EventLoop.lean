import Mermaid.Clock

/-!
# The event loop

Work is done by jobs in a queue, first in first out. The queue is worked off in rounds: what a round
makes ready runs in the next one, and the timers that are due join the queue at the start of a
round. Time stands still while there is anything to do, and otherwise moves to the next timer.

A `Machine` says what each job does. It gives every job a weight, and the jobs and timers that come
of a job weigh less than the job itself; so the queue always runs empty.

* `EventLoop.absorb` takes in what comes of a call from outside;
* `EventLoop.run` works until an instant, and `EventLoop.drain` without letting time pass;
* `EventLoop.advance` lets some seconds pass.
-/

namespace Mermaid

/-- A job to be made ready at some time. -/
structure Timer (J : Type) where
  due : Due
  job : J

/-- What comes of a job: the new state, what can be seen, the jobs made ready and the timers set. -/
structure Reaction (S J E : Type) where
  state : S
  events : List E := []
  ready : List J := []
  timers : List (Timer J) := []

/-- The sum of some numbers. -/
def total : List Nat → Nat
  | [] => 0
  | n :: ns => n + total ns

@[simp] theorem total_nil : total [] = 0 := rfl

@[simp] theorem total_cons (n : Nat) (ns : List Nat) : total (n :: ns) = n + total ns := rfl

@[simp] theorem total_append (ms ns : List Nat) : total (ms ++ ns) = total ms + total ns := by
  induction ms with
  | nil => simp
  | cons m ms ih => simp [ih, Nat.add_assoc]

/-- The weight of some jobs and timers. -/
def weigh (weight : J → Nat) (ready : List J) (timers : List (Timer J)) : Nat :=
  total (ready.map weight) + total (timers.map fun t => weight t.job)

/-- What jobs do to a state. -/
structure Machine (S J E : Type) where
  handle : Instant → J → S → Reaction S J E
  weight : J → Nat
  lighter : ∀ now j s,
    weigh weight (handle now j s).ready (handle now j s).timers < weight j

/-- The jobs of a loop, the time, and the state that the jobs work on. Timers are in the order in
which they fall due; those due together are in the order in which they were set. -/
structure EventLoop (S J : Type) where
  state : S
  now : Instant := 0
  ready : List J := []
  timers : List (Timer J) := []

namespace EventLoop

/-- Puts a timer in front of the first one that falls due after it. -/
def insertTimer (t : Timer J) : List (Timer J) → List (Timer J)
  | [] => [t]
  | u :: us => if t.due.isBefore u.due then t :: u :: us else u :: insertTimer t us

/-- Puts new timers in their places, one after the other. -/
def addTimers (new ts : List (Timer J)) : List (Timer J) :=
  new.foldl (fun ts t => insertTimer t ts) ts

@[simp] theorem addTimers_nil (ts : List (Timer J)) : addTimers [] ts = ts := rfl

@[simp] theorem addTimers_cons (t : Timer J) (new ts : List (Timer J)) :
    addTimers (t :: new) ts = addTimers new (insertTimer t ts) := rfl

/-- The timers due at an instant. A timer that is not due holds back those behind it. -/
def dueAt [Platform] (now : Instant) (ts : List (Timer J)) : List (Timer J) :=
  ts.takeWhile fun t => t.due.isDueAt now

/-- The timers left at an instant. -/
def laterThan [Platform] (now : Instant) (ts : List (Timer J)) : List (Timer J) :=
  ts.dropWhile fun t => t.due.isDueAt now

/-- The instant at which the next timer falls due, from an instant on and up to a limit, as the
clock shows it. -/
def nextDue? [Platform] (now limit : Instant) : List (Timer J) → Option Instant
  | [] => none
  | t :: _ =>
    if t.due.isDueAt now then some now
    else if t.due.isDueAt limit then
      match t.due with
      | .at d => some (if limit < Platform.clock d then limit else Platform.clock d)
      | _ => none
    else none

/-- The instant of the next round up to a limit: now when there is something to do, else that of the
next timer. -/
def roundTime? [Platform] (limit : Instant) (l : EventLoop S J) : Option Instant :=
  if !l.ready.isEmpty then some l.now else nextDue? l.now limit l.timers

/-- Does some jobs one after the other, and collects what comes of them. -/
def doJobs (m : Machine S J E) (now : Instant) (s : S) : List J → Reaction S J E
  | [] => { state := s }
  | j :: js =>
    let first := m.handle now j s
    let rest := doJobs m now first.state js
    { state := rest.state
      events := first.events ++ rest.events
      ready := first.ready ++ rest.ready
      timers := first.timers ++ rest.timers }

/-! ## Every round makes the work lighter -/

/-- The weight of all that is left to do. -/
def work (m : Machine S J E) (l : EventLoop S J) : Nat := weigh m.weight l.ready l.timers

private theorem weigh_append (w : J → Nat) (r₁ r₂ : List J) (t₁ t₂ : List (Timer J)) :
    weigh w (r₁ ++ r₂) (t₁ ++ t₂) = weigh w r₁ t₁ + weigh w r₂ t₂ := by
  simp only [weigh, List.map_append, total_append]
  omega

private theorem weigh_doJobs_le (m : Machine S J E) (now : Instant) (js : List J) (s : S) :
    weigh m.weight (doJobs m now s js).ready (doJobs m now s js).timers + js.length ≤
      total (js.map m.weight) := by
  induction js generalizing s with
  | nil => simp [doJobs, weigh]
  | cons j js ih =>
    have h := m.lighter now j s
    have h' := ih (m.handle now j s).state
    simp only [doJobs, weigh_append, List.map_cons, total_cons, List.length_cons]
    omega

private theorem sum_insertTimer (f : Timer J → Nat) (t : Timer J) (ts : List (Timer J)) :
    total ((insertTimer t ts).map f) = f t + total (ts.map f) := by
  induction ts with
  | nil => simp [insertTimer]
  | cons u us ih =>
    rw [insertTimer]
    split
    · simp
    · simp only [List.map_cons, total_cons, ih]
      omega

private theorem sum_addTimers (f : Timer J → Nat) (new ts : List (Timer J)) :
    total ((addTimers new ts).map f) = total (new.map f) + total (ts.map f) := by
  induction new generalizing ts with
  | nil => simp
  | cons t new ih =>
    rw [addTimers_cons, ih, sum_insertTimer, List.map_cons, total_cons]
    omega

/-- The timers due at an instant and those that are left weigh as much as all timers. -/
private theorem sum_dueAt_add [Platform] (f : Timer J → Nat) (now : Instant)
    (ts : List (Timer J)) :
    total ((dueAt now ts).map f) + total ((laterThan now ts).map f) = total (ts.map f) := by
  rw [dueAt, laterThan, ← total_append, ← List.map_append, List.takeWhile_append_dropWhile]

/-- The jobs of a round at an instant. -/
def batch [Platform] (now : Instant) (l : EventLoop S J) : List J :=
  l.ready ++ (dueAt now l.timers).map Timer.job

/-- The loop after a round at an instant, and what could be seen. -/
def round [Platform] (m : Machine S J E) (now : Instant) (l : EventLoop S J) :
    EventLoop S J × List E :=
  let r := doJobs m now l.state (batch now l)
  ({ state := r.state, now := now, ready := r.ready
     timers := addTimers r.timers (laterThan now l.timers) }, r.events)

theorem work_round_add_le [Platform] (m : Machine S J E) (now : Instant) (l : EventLoop S J) :
    work m (round m now l).1 + (batch now l).length ≤ work m l := by
  have h := weigh_doJobs_le m now (batch now l) l.state
  have hs := sum_dueAt_add (fun t => m.weight t.job) now l.timers
  simp only [batch, List.map_append, List.map_map, total_append] at h
  have hc : (m.weight ∘ Timer.job) = fun t : Timer J => m.weight t.job := rfl
  rw [hc] at h
  simp only [round, work, weigh, batch, sum_addTimers] at h ⊢
  omega

/-- Works until an instant: rounds are done as long as there is something to do up to then. A round
without a job ends the work as well. -/
def run [Platform] (m : Machine S J E) (limit : Instant) (l : EventLoop S J) :
    EventLoop S J × List E :=
  match roundTime? limit l with
  | none => ({ l with now := if l.now < limit then limit else l.now }, [])
  | some now =>
    if _h : (batch now l).length = 0 then
      ({ l with now := if l.now < limit then limit else l.now }, [])
    else
      let (next, events) := run m limit (round m now l).1
      (next, (round m now l).2 ++ events)
termination_by work m l
decreasing_by
  have := work_round_add_le m now l
  omega

/-- Takes what comes of a call into the loop, and gives what can be seen. -/
def absorb (r : Reaction S J E) (l : EventLoop S J) : EventLoop S J × List E :=
  ({ l with
      state := r.state, ready := l.ready ++ r.ready, timers := addTimers r.timers l.timers },
    r.events)

/-- Works off the queue and the timers already due, without letting time pass. -/
def drain [Platform] (m : Machine S J E) (l : EventLoop S J) : EventLoop S J × List E :=
  run m l.now l

/-- Works off the queue and lets some seconds pass. -/
def advance [Platform] (m : Machine S J E) (seconds : Rat) (l : EventLoop S J) :
    EventLoop S J × List E :=
  run m (l.now + seconds) l

end EventLoop

end Mermaid
