import Mathlib.Tactic.Common
import Mermaid.EventLoop

/-!
# Schedules

A schedule does jobs in any order, with calls from outside in between. Timers may fall due at any
time, so their jobs are jobs like all others. What holds of all schedules holds whatever the order
in which an event loop does its work.

* `Schedule` gives the scenes that can be reached;
* `Machine.StaysIn.run` says that an event loop stays in scenes that its jobs do not lead out of, as
  those of a schedule;
* `Schedule.keeps` is the induction over schedules, for an invariant of the state, of the jobs, and
  of what can be seen.
-/

namespace Mermaid

variable {S J E : Type}

/-- A state, the jobs that are left to do, and all that could be seen so far. -/
structure Scene (S J E : Type) where
  state : S
  jobs : List J := []
  events : List E := []

/-- The jobs that a reaction leaves, those of its timers included. -/
def Reaction.jobs (r : Reaction S J E) : List J := r.ready ++ r.timers.map Timer.job

/-- The scene that a reaction leads to. -/
def Scene.after (r : Reaction S J E) (rest : List J) (seen : List E) : Scene S J E where
  state := r.state
  jobs := rest ++ r.ready ++ r.timers.map Timer.job
  events := seen ++ r.events

lemma mem_jobs_after {r : Reaction S J E} {rest : List J} {seen : List E} {j : J} :
    j ∈ (Scene.after r rest seen).jobs ↔ j ∈ rest ∨ j ∈ r.jobs := by
  rw [Scene.after, Reaction.jobs, List.append_assoc, List.mem_append]

/-- The scenes that calls from outside and jobs can lead to, in any order. -/
inductive Schedule (work : J → S → Reaction S J E → Prop) (call : S → Reaction S J E → Prop)
    (s₀ : S) : Scene S J E → Prop
  | start : Schedule work call s₀ { state := s₀ }
  | call {sc : Scene S J E} {r : Reaction S J E} :
      Schedule work call s₀ sc → call sc.state r →
        Schedule work call s₀ (Scene.after r sc.jobs sc.events)
  | work {sc : Scene S J E} {j : J} {rest : List J} {r : Reaction S J E} :
      Schedule work call s₀ sc → sc.jobs.Perm (j :: rest) → work j sc.state r →
        Schedule work call s₀ (Scene.after r rest sc.events)

/-- Whether a reaction keeps to invariants of the state, of the jobs, and of what can be seen. -/
structure Reaction.Keeps (stateOk : S → Prop) (jobOk : J → Prop) (eventOk : E → Prop)
    (r : Reaction S J E) : Prop where
  state : stateOk r.state
  ready : ∀ j ∈ r.ready, jobOk j
  timers : ∀ t ∈ r.timers, jobOk t.job
  events : ∀ e ∈ r.events, eventOk e

/-- Whether a scene keeps to such invariants. -/
structure Scene.Keeps (stateOk : S → Prop) (jobOk : J → Prop) (eventOk : E → Prop)
    (sc : Scene S J E) : Prop where
  state : stateOk sc.state
  jobs : ∀ j ∈ sc.jobs, jobOk j
  events : ∀ e ∈ sc.events, eventOk e

section Keeps

variable {stateOk : S → Prop} {jobOk : J → Prop} {eventOk : E → Prop}

lemma Reaction.Keeps.after {r : Reaction S J E} (hr : r.Keeps stateOk jobOk eventOk)
    {rest : List J} {seen : List E} (hrest : ∀ j ∈ rest, jobOk j) (hseen : ∀ e ∈ seen, eventOk e) :
    (Scene.after r rest seen).Keeps stateOk jobOk eventOk where
  state := hr.state
  jobs := by
    intro j hj
    simp only [Scene.after, List.mem_append, List.mem_map] at hj
    rcases hj with (hold | hready) | ⟨t, ht, rfl⟩
    · exact hrest j hold
    · exact hr.ready j hready
    · exact hr.timers t ht
  events := by
    intro e he
    rcases List.mem_append.1 he with hold | hnew
    · exact hseen e hold
    · exact hr.events e hnew

/-- What every call and every job keeps to, every schedule keeps to. -/
theorem Schedule.keeps {work : J → S → Reaction S J E → Prop} {call : S → Reaction S J E → Prop}
    {s₀ : S} {sc : Scene S J E} (hsc : Schedule work call s₀ sc) (hstart : stateOk s₀)
    (hcall : ∀ s r, stateOk s → call s r → r.Keeps stateOk jobOk eventOk)
    (hwork : ∀ j s r, stateOk s → jobOk j → work j s r → r.Keeps stateOk jobOk eventOk) :
    sc.Keeps stateOk jobOk eventOk := by
  induction hsc with
  | start => exact ⟨hstart, by simp, by simp⟩
  | call _ hr ih => exact (hcall _ _ ih.state hr).after ih.jobs ih.events
  | work _ hperm hr ih =>
    have hjobs : ∀ j ∈ _, jobOk j := fun j hj => ih.jobs j (hperm.mem_iff.2 hj)
    refine (hwork _ _ _ ih.state (hjobs _ List.mem_cons_self) hr).after ?_ ih.events
    exact fun j hj => hjobs j (List.mem_cons_of_mem _ hj)

end Keeps

/-! ## Event loops follow schedules -/

namespace EventLoop

lemma perm_insertTimer (t : Timer J) (ts : List (Timer J)) : (insertTimer t ts).Perm (t :: ts) := by
  induction ts with
  | nil => exact .refl [t]
  | cons u us ih =>
    rw [insertTimer]
    split
    · exact .refl (t :: u :: us)
    · exact (ih.cons u).trans (.swap t u us)

/-- Timers that are put in their places are the new ones and those from before. -/
lemma perm_addTimers (new ts : List (Timer J)) : (addTimers new ts).Perm (new ++ ts) := by
  induction new generalizing ts with
  | nil => exact .refl ts
  | cons t new ih =>
    rw [addTimers_cons]
    exact (ih (insertTimer t ts)).trans
      (((perm_insertTimer t ts).append_left new).trans List.perm_middle)

/-- The jobs that are ready, and those of the timers. -/
def jobs (l : EventLoop S J) : List J := l.ready ++ l.timers.map Timer.job

/-- The timers that are due and those that are left are all timers. -/
lemma dueAt_append_laterThan [Platform] (now : Instant) (ts : List (Timer J)) :
    dueAt now ts ++ laterThan now ts = ts :=
  List.takeWhile_append_dropWhile

/-- The jobs of a round and those of the later timers are all jobs. -/
lemma jobs_eq_batch [Platform] (now : Instant) (l : EventLoop S J) :
    l.jobs = batch now l ++ (laterThan now l.timers).map Timer.job := by
  rw [jobs, batch, List.append_assoc, ← List.map_append, dueAt_append_laterThan]

/-- Whether a scene shows a loop: it has the same state and the same jobs, in any order. -/
structure IsShownBy (l : EventLoop S J) (sc : Scene S J E) : Prop where
  state : sc.state = l.state
  jobs : sc.jobs.Perm l.jobs

/-- What comes of a call from outside comes of it in the scene as well. -/
lemma IsShownBy.absorb {l : EventLoop S J} {sc : Scene S J E} (hl : l.IsShownBy sc)
    (r : Reaction S J E) :
    (EventLoop.absorb r l).1.IsShownBy (Scene.after r sc.jobs sc.events) where
  state := rfl
  jobs := by
    have htimers := (perm_addTimers r.timers l.timers).map Timer.job
    rw [List.map_append] at htimers
    refine ((hl.jobs.append_right _).append_right _).trans ?_
    rw [EventLoop.jobs, EventLoop.jobs, EventLoop.absorb, List.append_assoc, List.append_assoc,
      List.append_assoc]
    refine .append_left _ (List.perm_append_comm.trans ?_)
    rw [List.append_assoc]
    exact .append_left _ htimers.symm

end EventLoop

/-- Whether the jobs of a machine lead from scenes of a kind to scenes of that kind, whichever job
is taken and whenever. -/
def Machine.StaysIn (m : Machine S J E) (scenes : Scene S J E → Prop) : Prop :=
  ∀ (now : Instant) (sc : Scene S J E) (j : J) (rest : List J), scenes sc →
    sc.jobs.Perm (j :: rest) → scenes (Scene.after (m.handle now j sc.state) rest sc.events)

namespace Machine.StaysIn

variable {m : Machine S J E} {scenes : Scene S J E → Prop}

/-- Jobs done one after the other stay in the scenes. -/
lemma doJobs (hm : m.StaysIn scenes) (now : Instant) (js rest : List J) {sc : Scene S J E}
    (hsc : scenes sc) (hjobs : sc.jobs.Perm (js ++ rest)) :
    ∃ sc', scenes sc' ∧
      sc'.state = (EventLoop.doJobs m now sc.state js).state ∧
      sc'.jobs.Perm (rest ++ ((EventLoop.doJobs m now sc.state js).ready ++
        (EventLoop.doJobs m now sc.state js).timers.map Timer.job)) ∧
      sc'.events = sc.events ++ (EventLoop.doJobs m now sc.state js).events := by
  -- what the jobs done so far have added waits behind the jobs that are left
  induction js generalizing sc rest with
  | nil => exact ⟨sc, hsc, rfl, by simpa [EventLoop.doJobs] using hjobs, by simp [EventLoop.doJobs]⟩
  | cons j js ih =>
    have hstep := hm now _ _ _ hsc hjobs
    set r := m.handle now j sc.state
    have hnext : (Scene.after r (js ++ rest) sc.events).jobs.Perm
        (js ++ (rest ++ (r.ready ++ r.timers.map Timer.job))) := by simp [Scene.after]
    obtain ⟨sc', hsc', hstate, hperm, hevents⟩ := ih _ hstep hnext
    refine ⟨sc', hsc', hstate, ?_, ?_⟩
    · refine hperm.trans ?_
      simp only [EventLoop.doJobs, List.map_append, List.append_assoc]
      exact ((List.perm_append_comm_assoc _ _ _).append_left r.ready).append_left rest
    · rw [hevents, EventLoop.doJobs]
      exact List.append_assoc _ _ _

/-- A round stays in the scenes. -/
lemma round [Platform] (hm : m.StaysIn scenes) (now : Instant) {l : EventLoop S J}
    {sc : Scene S J E} (hsc : scenes sc) (hl : l.IsShownBy sc) :
    ∃ sc', scenes sc' ∧ (EventLoop.round m now l).1.IsShownBy sc' ∧
      sc'.events = sc.events ++ (EventLoop.round m now l).2 := by
  obtain ⟨sc', hsc', hstate, hperm, hevents⟩ :=
    hm.doJobs now _ _ hsc (EventLoop.jobs_eq_batch now l ▸ hl.jobs)
  rw [hl.state] at hstate hperm hevents
  refine ⟨sc', hsc', ⟨hstate, ?_⟩, hevents⟩
  rw [EventLoop.jobs, EventLoop.round]
  have htimers := (EventLoop.perm_addTimers
    (EventLoop.doJobs m now l.state (EventLoop.batch now l)).timers
    (EventLoop.laterThan now l.timers)).map Timer.job
  rw [List.map_append] at htimers
  refine hperm.trans ((List.perm_append_comm_assoc _ _ _).trans (.append_left _ ?_))
  exact List.perm_append_comm.trans htimers.symm

/-- **Event loops stay in the scenes of their machine.** Whatever an event loop does from a scene on
leads to such a scene again. -/
theorem run [Platform] (hm : m.StaysIn scenes) (limit : Instant) (l : EventLoop S J)
    {sc : Scene S J E} (hsc : scenes sc) (hl : l.IsShownBy sc) :
    ∃ sc', scenes sc' ∧ (EventLoop.run m limit l).1.IsShownBy sc' ∧
      sc'.events = sc.events ++ (EventLoop.run m limit l).2 := by
  induction l using EventLoop.run.induct m limit generalizing sc with
  | case1 l htime =>
    rw [EventLoop.run, htime]
    exact ⟨sc, hsc, ⟨hl.state, hl.jobs⟩, by simp⟩
  | case2 l now htime hempty =>
    rw [EventLoop.run, htime]
    simp only [hempty, dite_true]
    exact ⟨sc, hsc, ⟨hl.state, hl.jobs⟩, by simp⟩
  | case3 l now htime hbatch _ _ _ ih =>
    -- a round at the next time, and then the rest of the run
    obtain ⟨sc₁, hsc₁, hl₁, hevents₁⟩ := hm.round now hsc hl
    obtain ⟨sc₂, hsc₂, hl₂, hevents₂⟩ := ih hsc₁ hl₁
    rw [EventLoop.run, htime]
    simp only [hbatch, dite_false]
    refine ⟨sc₂, hsc₂, hl₂, ?_⟩
    rw [hevents₂, hevents₁, List.append_assoc]

end Machine.StaysIn

/-- A machine whose jobs are those of a schedule stays in its scenes. -/
lemma Schedule.staysIn {work : J → S → Reaction S J E → Prop} {call : S → Reaction S J E → Prop}
    {s₀ : S} {m : Machine S J E} (hwork : ∀ now j s, work j s (m.handle now j s)) :
    m.StaysIn (Schedule work call s₀) :=
  fun now sc j _ hsc hjobs => .work hsc hjobs (hwork now j sc.state)

end Mermaid
