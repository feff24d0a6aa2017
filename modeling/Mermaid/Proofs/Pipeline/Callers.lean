import Mermaid.Pipeline.Host
import Mermaid.Proofs.EventLoop.Schedule

/-!
# Callers get markers

A caller who waits for a pass gets the markers of the pipeline, whatever becomes of the pass. What a
validator raises goes into the markers and never to the caller. Only a receiver that raises an
error, and a pass that is cancelled, can keep the markers from a caller; schedules without both
answer every caller with markers.

The order in which jobs are done plays no part in this, so it holds of all schedules; what an event
loop does for a host is one of them.
-/

namespace Mermaid

variable {V : Type}

/-- Receivers that never raise an error. -/
def Surroundings.IsQuiet (env : Surroundings V) : Prop := ∀ n, env.receivers n = {}

/-- A job of a host, in any surroundings whose receivers raise no error. -/
def Host.Works [Platform] (j : HostJob) (h : Host V) (r : Reaction (Host V) HostJob HostEvent) :
    Prop :=
  ∃ env now, Surroundings.IsQuiet env ∧ r = Host.handle env now j h

/-- A call to a host from outside, in any surroundings whose receivers raise no error. No call
cancels a pass. -/
inductive Host.Calls (h : Host V) : Reaction (Host V) HostJob HostEvent → Prop
  | update (env : Surroundings V) (now : Instant) (i : Nat) (text : Text) : env.IsQuiet →
      Calls h (h.update env now i text).reaction
  | validateNow (env : Surroundings V) (i : Nat) (text : Option Text) : env.IsQuiet →
      Calls h (h.validateNow env i text).reaction
  | flush (ticket i : Nat) (text : Option Text) :
      Calls h { state := h, ready := [.flush ticket i text] }
  | equip (i : Nat) (v : V) (d : Binary64) :
      Calls h { state := h.modifySlot i fun s =>
        { s with validator := v, pipeline := { s.pipeline with delay := d } } }
  | release (text : Text) : Calls h (h.release text)
  | teardown (i : Nat) : Calls h { state := h.teardown i }

/-- The scenes that a host can reach from some pipelines. -/
abbrev Host.Scenes [Platform] (slots : List (Slot V)) : Scene (Host V) HostJob HostEvent → Prop :=
  Schedule Host.Works Host.Calls { slots := slots }

/-! ## Changes raise nothing -/

/-- When receivers raise no error, nothing that happens to a pipeline does. -/
lemma Pipeline.raised_update (now : Instant) (text : Text) (p : Pipeline) :
    (p.update {} now text).1.raised = false := by
  unfold update
  split
  · rfl
  · dsimp only
    split <;> rfl

lemma Pipeline.raised_validateNow (caller : Option Nat) (text : Option Text) (p : Pipeline) :
    (p.validateNow {} caller text).raised = false := by
  unfold validateNow
  split
  · rfl
  · dsimp only
    split <;> rfl

lemma Pipeline.raised_fire (serial : Nat) (p : Pipeline) : (p.fire serial).raised = false := by
  unfold fire
  split <;> rfl

lemma Pipeline.raised_finish (n : Nat) (v : Verdict) (p : Pipeline) :
    (p.finish {} n v).raised = false := by
  unfold finish
  split
  · rfl
  · dsimp only
    split
    · rfl
    · cases v <;> rfl

/-! ## Jobs without a fault -/

/-- A job that does not bring a caller a fault. -/
def HostJob.IsFaultless : HostJob → Prop
  | .resume _ _ fault => fault = none
  | .deliver _ _ result => ∃ markers, result = .ok markers
  | _ => True

/-- An event that does not bring a caller a fault. -/
def HostEvent.IsFaultless : HostEvent → Prop
  | .answered _ result => ∃ markers, result = .ok markers
  | _ => True

namespace Host

/-- A reaction without a fault, after which no pass is cancelled. -/
abbrev Faultless (r : Reaction (Host V) HostJob HostEvent) : Prop :=
  r.Keeps (fun h => h.cancelled = []) HostJob.IsFaultless HostEvent.IsFaultless

lemma changeEvents_faultless (name : String) (c : Change) :
    ∀ e ∈ changeEvents name c, e.IsFaultless := by
  intro e he
  simp only [changeEvents, List.mem_append, Option.mem_toList,
    Option.map_eq_some_iff] at he
  rcases he with ⟨_, _, rfl⟩ | ⟨_, _, rfl⟩ <;> exact trivial

lemma changed_faultless {h : Host V} (hh : h.cancelled = []) (i : Nat) (s : Slot V) (c : Change) :
    Faultless (changed i s c h) where
  state := hh
  ready := by
    intro j hj
    simp only [changed, Option.mem_toList, Option.map_eq_some_iff] at hj
    obtain ⟨_, _, rfl⟩ := hj
    exact trivial
  timers := by simp [changed]
  events := changeEvents_faultless _ _

lemma finish_faultless {env : Surroundings V} (henv : env.IsQuiet) {h : Host V}
    (hh : h.cancelled = []) (i n : Nat) (v : Verdict) (s : Slot V) :
    Faultless (finish env i n v s h) where
  state := hh
  ready := by
    intro j hj
    have hraised := s.pipeline.raised_finish n v
    simp only [finish, henv _, hraised, resumeCaller, Option.mem_toList,
      Option.map_eq_some_iff] at hj
    obtain ⟨_, _, rfl⟩ := hj
    rfl
  timers := by simp [finish]
  events := changeEvents_faultless _ _

lemma goOn_faultless {env : Surroundings V} (henv : env.IsQuiet) {h : Host V}
    (hh : h.cancelled = []) (now : Instant) (i n : Nat) (events : List RunEvent) (rest : Course)
    (s : Slot V) : Faultless (goOn env now i n events rest s h) := by
  have hrun : ∀ e ∈ events.map HostEvent.run, e.IsFaultless := by
    intro e he
    obtain ⟨_, _, rfl⟩ := List.mem_map.1 he
    exact trivial
  match rest with
  | .done v =>
    have hfinish := finish_faultless henv hh i n v s
    refine ⟨hfinish.state, hfinish.ready, hfinish.timers, ?_⟩
    intro e he
    rcases List.mem_append.1 he with hold | hnew
    · exact hrun e hold
    · exact hfinish.events e hnew
  | .stuck => exact ⟨hh, by simp [goOn], by simp [goOn], hrun⟩
  | .next (.rounds k) later rest =>
    exact ⟨hh, by simp [goOn, HostJob.IsFaultless], by simp [goOn], hrun⟩
  | .next (.seconds d k) later rest =>
    exact ⟨hh, by simp [goOn], by simp [goOn, HostJob.IsFaultless], hrun⟩

lemma consultFor_faultless [Platform] {env : Surroundings V} (henv : env.IsQuiet) {h : Host V}
    (hh : h.cancelled = []) (now : Instant) (i : Nat) (pass : Pass) (s : Slot V) :
    Faultless (consultFor env now i pass s h) := by
  have hadd : ∀ r : Reaction (Host V) HostJob HostEvent, Faultless r →
      Faultless { r with events := .consulted pass.text :: r.events } := by
    intro r hr
    refine ⟨hr.state, hr.ready, hr.timers, ?_⟩
    intro e he
    rcases List.mem_cons.1 he with rfl | hold
    · exact trivial
    · exact hr.events e hold
  unfold consultFor
  apply hadd
  split
  · exact finish_faultless henv hh i _ _ s
  · exact ⟨hh, by simp, by simp, by simp⟩
  · exact goOn_faultless henv hh now i _ _ _ s

lemma flush_faultless {env : Surroundings V} (henv : env.IsQuiet) {h : Host V}
    (hh : h.cancelled = []) (ticket i : Nat) (text : Option Text) (s : Slot V) :
    Faultless (flush env ticket i text s h) := by
  have hraised := s.pipeline.raised_validateNow (some ticket) text
  have hchanged := changed_faultless hh i s (s.pipeline.validateNow {} (some ticket) text)
  simp only [flush, henv _, hraised, Bool.false_eq_true, if_false]
  split
  · exact hchanged
  · exact ⟨hh, by simp [HostJob.IsFaultless], by simp [changed], hchanged.events⟩

/-- Every job that brings no fault leads to none. -/
lemma works_faultless [Platform] {j : HostJob} {h : Host V}
    {r : Reaction (Host V) HostJob HostEvent}
    (hh : h.cancelled = []) (hj : j.IsFaultless) (hr : Works j h r) : Faultless r := by
  obtain ⟨env, now, henv, rfl⟩ := hr
  -- no pass is cancelled, so the job of a pass is never cut short
  have hstill : ∀ i n, h.isCancelled i n = false := by simp [isCancelled, hh]
  unfold handle
  split
  · exact ⟨hh, by simp [unchanged], by simp [unchanged], by simp [unchanged]⟩
  · next s _ =>
    cases j with
    | fire i serial => exact changed_faultless hh i s _
    | begin i n =>
      simp only [HostJob.slot, handleAt, hstill, Bool.false_eq_true, if_false]
      split
      · exact ⟨hh, by simp [unchanged], by simp [unchanged], by simp [unchanged]⟩
      · exact consultFor_faultless henv hh now i _ s
    | follow i n turns events rest =>
      cases turns with
      | zero => exact goOn_faultless henv hh now i n events rest s
      | succ k =>
        exact ⟨hh, by simp [handleAt, HostJob.IsFaultless], by simp [handleAt], by simp [handleAt]⟩
    | wake i n v =>
      simp only [HostJob.slot, handleAt, hstill, Bool.false_eq_true, if_false]
      exact finish_faultless henv hh i n v s
    | flush ticket i text => exact flush_faultless henv hh ticket i text s
    | resume ticket i fault =>
      obtain rfl : fault = none := hj
      exact ⟨hh, by simp [handleAt, HostJob.IsFaultless], by simp [handleAt], by simp [handleAt]⟩
    | deliver ticket i result =>
      obtain ⟨markers, rfl⟩ := hj
      exact ⟨hh, by simp [handleAt], by simp [handleAt],
        by simp [handleAt, HostEvent.IsFaultless]⟩

/-- Every call from outside leads to no fault. -/
lemma calls_faultless {h : Host V} {r : Reaction (Host V) HostJob HostEvent}
    (hh : h.cancelled = []) (hr : Calls h r) : Faultless r := by
  cases hr with
  | update env now i text henv =>
    unfold update
    split
    · exact ⟨hh, by simp [unchanged], by simp [unchanged], by simp [unchanged]⟩
    · next s _ =>
      have hchanged := changed_faultless hh i s (s.pipeline.update {} now text).1
      simp only [henv _]
      refine ⟨hchanged.state, hchanged.ready, ?_, hchanged.events⟩
      intro t ht
      simp only [Option.mem_toList, Option.map_eq_some_iff] at ht
      obtain ⟨_, _, rfl⟩ := ht
      exact trivial
  | validateNow env i text henv =>
    unfold validateNow
    split
    · exact ⟨hh, by simp [unchanged], by simp [unchanged], by simp [unchanged]⟩
    · exact changed_faultless hh i _ _
  | flush ticket i text => exact ⟨hh, by simp [HostJob.IsFaultless], by simp, by simp⟩
  | equip i v d => exact ⟨hh, by simp, by simp, by simp⟩
  | release text =>
    refine ⟨hh, ?_, by simp [release], by simp [release]⟩
    intro j hj
    obtain ⟨held, _, rfl⟩ := List.mem_map.1 hj
    exact trivial
  | teardown i => exact ⟨hh, by simp, by simp, by simp⟩

/-- Whatever validators say, every caller who is answered is answered with markers. -/
theorem Scenes.answered_ok [Platform] {slots : List (Slot V)}
    {sc : Scene (Host V) HostJob HostEvent}
    (hsc : Scenes slots sc) : ∀ e ∈ sc.events, e.IsFaultless := by
  have hkeeps : sc.Keeps (fun h => h.cancelled = []) HostJob.IsFaultless HostEvent.IsFaultless := by
    apply Schedule.keeps hsc
    · rfl
    · exact fun _ _ hh hr => calls_faultless hh hr
    · exact fun _ _ _ hh hj hr => works_faultless hh hj hr
  exact hkeeps.events

/-- An event loop that works for a host stays within its scenes, if the receivers raise no error. -/
theorem Scenes.run [Platform] {slots : List (Slot V)} {env : Surroundings V} (henv : env.IsQuiet)
    (limit : Instant) (l : EventLoop (Host V) HostJob) {sc : Scene (Host V) HostJob HostEvent}
    (hsc : Scenes slots sc) (hl : l.IsShownBy sc) :
    ∃ sc', Scenes slots sc' ∧ (EventLoop.run (machine env) limit l).1.IsShownBy sc' ∧
      sc'.events = sc.events ++ (EventLoop.run (machine env) limit l).2 :=
  Machine.StaysIn.run (Schedule.staysIn fun now _ _ => ⟨env, now, henv, rfl⟩) limit l hsc hl

end Host

end Mermaid
