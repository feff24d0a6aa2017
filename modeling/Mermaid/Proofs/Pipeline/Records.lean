import Mermaid.Proofs.Pipeline.Hosting

/-!
# Records of a host

Whatever is called from outside and in whatever order the jobs are done, what happens to each
pipeline of a host is a run. A record keeps the moments of these runs, slot by slot.

* `Host.Asked` lists the calls from outside, and `Host.Recorded` strings calls and jobs together;
* `Host.Recorded.run` says that the moments of a slot are a run, and `Host.Recorded.exists_run` that
  what an event loop does can be recorded;
* `Host.Recorded.answered` says what has happened before a caller gets an answer.
-/

namespace Mermaid

variable {V : Type}

/-- The moment at which something may happen to a pipeline; there is none if it cannot happen. -/
def Pipeline.moments (r : Receivers) (p : Pipeline) (hap : Option Happening) : List Moment :=
  ((hap.filter fun hap => hap.isPossible p).map fun hap => ⟨p, r, hap⟩).toList

/-- What may happen to a pipeline prolongs its run. -/
lemma Pipeline.Run.prolong {p₀ p : Pipeline} {ms : List Moment} (hrun : Run p₀ ms p)
    (r : Receivers) (hap : Option Happening) :
    Run p₀ (ms ++ p.moments r hap) (p.after r hap) := by
  cases hap with
  | none =>
    rw [show p.moments r none = [] from rfl, List.append_nil]
    exact hrun
  | some hap =>
    rw [after_some]
    cases hpossible : hap.isPossible p with
    | true =>
      rw [show p.moments r (some hap) = [⟨p, r, hap⟩] by simp [moments, Option.filter, hpossible]]
      exact .step r hap hrun hpossible
    | false =>
      rw [show p.moments r (some hap) = [] by simp [moments, Option.filter, hpossible],
        respond_of_impossible hpossible, List.append_nil]
      exact hrun

namespace Host

/-! ## Calls and jobs -/

/-- A call to a host from outside, with what it makes happen to the pipeline of a slot. -/
inductive Asked (env : Surroundings V) (now : Instant) (h : Host V) :
    Option (Nat × Happening) → Reaction (Host V) HostJob HostEvent → Prop
  | update (i : Nat) (text : Text) :
      Asked env now h (some (i, .update now text)) (h.update env now i text).reaction
  | validateNow (i : Nat) (text : Option Text) :
      Asked env now h (some (i, .validateNow text)) (h.validateNow env i text).reaction
  | flush (ticket i : Nat) (text : Option Text) :
      Asked env now h none { state := h, ready := [.flush ticket i text] }
  | equip (i : Nat) (v : V) (d : Binary64) :
      Asked env now h (some (i, .setDelay d)) { state := h.modifySlot i fun s =>
        { s with validator := v, pipeline := { s.pipeline with delay := d } } }
  | release (text : Text) : Asked env now h none (h.release text)
  | teardown (i : Nat) : Asked env now h (some (i, .teardown)) { state := h.teardown i }
  | cancelAll (i : Nat) : Asked env now h none (h.cancelAll i)

/-- What a job makes happen, and to the pipeline of which slot. -/
def madeBy [Platform] (env : Surroundings V) (h : Host V) (j : HostJob) :
    Option (Nat × Happening) :=
  (h.slots[j.slot]?.bind fun s => j.happening? env s h).map fun hap => (j.slot, hap)

/-- What happens to the pipeline of a slot. -/
def happensAt (i : Nat) (made : Option (Nat × Happening)) : Option Happening :=
  (made.filter fun made => made.1 = i).map Prod.snd

lemma happensAt_map (i k : Nat) (hap : Option Happening) :
    happensAt i (hap.map fun hap => (k, hap)) = if k = i then hap else none := by
  cases hap with
  | none => split <;> rfl
  | some hap => by_cases hki : k = i <;> simp [happensAt, Option.filter, hki]

/-- The pipeline of a slot. -/
def pipelineAt (h : Host V) (i : Nat) : Option Pipeline := h.slots[i]?.map Slot.pipeline

/-- The moment of a slot when something happens to one of the pipelines. -/
def momentsAt (env : Surroundings V) (h : Host V) (made : Option (Nat × Happening)) (i : Nat) :
    List Moment :=
  ((h.pipelineAt i).map fun p =>
    p.moments (env.receivers h.publications) (happensAt i made)).getD []

/-- The scenes that calls from outside and jobs can lead to, in any order and in any surroundings,
with the moments of each slot. -/
inductive Recorded [Platform] (slots : List (Slot V)) :
    (Nat → List Moment) → Scene (Host V) HostJob HostEvent → Prop
  | start : Recorded slots (fun _ => []) { state := { slots := slots } }
  | call {log : Nat → List Moment} {sc : Scene (Host V) HostJob HostEvent}
      {made : Option (Nat × Happening)} {r : Reaction (Host V) HostJob HostEvent}
      (env : Surroundings V) (now : Instant) : Recorded slots log sc →
        Asked env now sc.state made r →
        Recorded slots (fun i => log i ++ momentsAt env sc.state made i)
          (Scene.after r sc.jobs sc.events)
  | work {log : Nat → List Moment} {sc : Scene (Host V) HostJob HostEvent} {j : HostJob}
      {rest : List HostJob} (env : Surroundings V) (now : Instant) : Recorded slots log sc →
        sc.jobs.Perm (j :: rest) →
        Recorded slots (fun i => log i ++ momentsAt env sc.state (madeBy env sc.state j) i)
          (Scene.after (handle env now j sc.state) rest sc.events)

/-- What an event loop does for a host can be recorded. -/
theorem Recorded.exists_run [Platform] {slots : List (Slot V)} {log : Nat → List Moment}
    {sc : Scene (Host V) HostJob HostEvent} (hrec : Recorded slots log sc) (env : Surroundings V)
    (limit : Instant) (l : EventLoop (Host V) HostJob) (hl : l.IsShownBy sc) :
    ∃ log' sc', Recorded slots log' sc' ∧ (EventLoop.run (machine env) limit l).1.IsShownBy sc' ∧
      sc'.events = sc.events ++ (EventLoop.run (machine env) limit l).2 := by
  have hstays : (machine env).StaysIn fun sc => ∃ log, Recorded slots log sc :=
    fun now _ _ _ ⟨_, hrec⟩ hjobs => ⟨_, .work env now hrec hjobs⟩
  obtain ⟨sc', ⟨log', hrec'⟩, hshown, hevents⟩ := hstays.run limit l ⟨log, hrec⟩ hl
  exact ⟨log', sc', hrec', hshown, hevents⟩

/-! ## The moments of a slot are a run -/

section Slots

variable {env : Surroundings V} {now : Instant} {h : Host V} {i : Nat}

private lemma map_after_none (r : Receivers) (p : Option Pipeline) :
    (p.map fun p => p.after r none) = p := by
  cases p <;> rfl

/-- What happens at one slot is seen there, and nowhere else. -/
private lemma pipelineAt_of_set {h' : Host V} {r : Receivers} {k : Nat} {s : Slot V}
    (hap : Option Happening) (hs : h.slots[k]? = some s)
    (hslots : h'.slots = h.slots.set k { s with pipeline := s.pipeline.after r hap }) :
    h'.pipelineAt i =
      (h.pipelineAt i).map fun p => p.after r (happensAt i (hap.map fun hap => (k, hap))) := by
  rw [pipelineAt, pipelineAt, hslots, happensAt_map]
  by_cases hki : k = i
  · subst hki
    rw [List.getElem?_set_self (List.getElem?_eq_some_iff.1 hs).1, hs, if_pos rfl]
    rfl
  · rw [List.getElem?_set_ne hki, if_neg hki, map_after_none]

private lemma pipelineAt_of_modify {r : Receivers} {k : Nat} {f : Slot V → Slot V}
    {hap : Happening} (hf : ∀ s, (f s).pipeline = (s.pipeline.respond r hap).pipeline) :
    (h.modifySlot k f).pipelineAt i =
      (h.pipelineAt i).map fun p => p.after r (happensAt i (some (k, hap))) := by
  have hmade : happensAt i (some (k, hap)) = if k = i then some hap else none :=
    happensAt_map i k (some hap)
  rw [pipelineAt, pipelineAt, modifySlot, List.getElem?_modify, hmade]
  cases h.slots[i]? with
  | none => rfl
  | some s =>
    by_cases hki : k = i
    · rw [if_pos hki]
      simpa [hki] using hf s
    · simp [hki]

/-- A job does to every pipeline what is recorded of it. -/
lemma pipelineAt_handle [Platform] (j : HostJob) :
    (handle env now j h).state.pipelineAt i = (h.pipelineAt i).map fun p =>
      p.after (env.receivers h.publications) (happensAt i (madeBy env h j)) := by
  have hslots : (handle env now j h).state.slots = _ := slots_handle j h
  rw [madeBy]
  cases hs : h.slots[j.slot]? with
  | none =>
    rw [hs] at hslots
    rw [pipelineAt, hslots]
    exact (map_after_none _ _).symm
  | some s =>
    rw [hs] at hslots
    exact pipelineAt_of_set _ hs hslots

/-- Where there is no slot, nothing happens to any pipeline. -/
private lemma map_after_nowhere {r : Receivers} {k : Nat} (hap : Happening)
    (hk : h.slots[k]? = none) :
    (h.pipelineAt i).map (fun p => p.after r (happensAt i (some (k, hap)))) = h.pipelineAt i := by
  have hmade : happensAt i (some (k, hap)) = if k = i then some hap else none :=
    happensAt_map i k (some hap)
  by_cases hki : k = i
  · rw [pipelineAt, ← hki, hk]
    rfl
  · rw [hmade, if_neg hki, map_after_none]

/-- A call does to every pipeline what is recorded of it. -/
lemma Asked.pipelineAt {made : Option (Nat × Happening)}
    {r : Reaction (Host V) HostJob HostEvent} (hasked : Asked env now h made r) :
    r.state.pipelineAt i = (h.pipelineAt i).map fun p =>
      p.after (env.receivers h.publications) (happensAt i made) := by
  cases hasked with
  | update k text =>
    cases hk : h.slots[k]? with
    | none =>
      rw [Host.update, hk, map_after_nowhere _ hk]
      rfl
    | some s => exact pipelineAt_of_set (some _) hk (slots_update text hk)
  | validateNow k text =>
    cases hk : h.slots[k]? with
    | none =>
      rw [Host.validateNow, hk, map_after_nowhere _ hk]
      rfl
    | some s => exact pipelineAt_of_set (some _) hk (slots_validateNow text hk)
  | flush ticket k text => exact (map_after_none _ _).symm
  | equip k v d => exact pipelineAt_of_modify fun _ => rfl
  | release text => exact (map_after_none _ _).symm
  | teardown k => exact pipelineAt_of_modify fun _ => rfl
  | cancelAll k => exact (map_after_none _ _).symm

end Slots

section Recorded

variable {slots : List (Slot V)} {log : Nat → List Moment} {sc : Scene (Host V) HostJob HostEvent}
  {i : Nat}

/-- What happens to a pipeline prolongs its run. -/
private lemma prolong {env : Surroundings V} {made : Option (Nat × Happening)} {h h' : Host V}
    (hafter : h'.pipelineAt i = (h.pipelineAt i).map fun p =>
      p.after (env.receivers h.publications) (happensAt i made))
    (hrun : ∀ p, h.pipelineAt i = some p → ∃ s ∈ slots, s.pipeline.Run (log i) p) :
    ∀ p, h'.pipelineAt i = some p →
      ∃ s ∈ slots, s.pipeline.Run (log i ++ momentsAt env h made i) p := by
  intro p' hp'
  rw [hafter, Option.map_eq_some_iff] at hp'
  obtain ⟨p, hp, rfl⟩ := hp'
  obtain ⟨s, hs, hrun⟩ := hrun p hp
  refine ⟨s, hs, ?_⟩
  rw [momentsAt, hp]
  exact hrun.prolong _ _

/-- **Records are runs.** The moments of a slot are a run that leads to its pipeline. -/
theorem Recorded.run [Platform] (hrec : Recorded slots log sc) :
    ∀ p, sc.state.pipelineAt i = some p → ∃ s ∈ slots, s.pipeline.Run (log i) p := by
  induction hrec with
  | start =>
    intro p hp
    obtain ⟨s, hs, rfl⟩ := Option.map_eq_some_iff.1 hp
    exact ⟨s, List.mem_of_getElem? hs, .start⟩
  | call env now _ hasked ih => exact prolong hasked.pipelineAt ih
  | @work _ _ j _ env now _ _ ih => exact prolong (pipelineAt_handle j) ih

end Recorded

/-! ## Who is answered -/

end Host

/-- Whether a job lets a caller go on. -/
def HostJob.isAnswer : HostJob → Bool
  | .resume .. | .deliver .. => true
  | _ => false

/-- Whether an event answers a caller. -/
def HostEvent.isAnswer : HostEvent → Bool
  | .answered .. => true
  | _ => false

namespace Host

section Answers

variable {env : Surroundings V} {now : Instant} {h : Host V} {i : Nat} {s : Slot V}

private lemma isAnswer_changeEvents {name : String} {c : Change} :
    ∀ e ∈ changeEvents name c, e.isAnswer = false := by
  intro e he
  simp only [changeEvents, List.mem_append, Option.mem_toList, Option.map_eq_some_iff] at he
  rcases he with ⟨_, _, rfl⟩ | ⟨_, _, rfl⟩ <;> rfl

private lemma isAnswer_map_run {events : List RunEvent} :
    ∀ e ∈ events.map HostEvent.run, e.isAnswer = false := by
  intro e he
  obtain ⟨_, _, rfl⟩ := List.mem_map.1 he
  rfl

private lemma isAnswer_goOn {n : Nat} {events : List RunEvent} {rest : Course} :
    ∀ e ∈ (goOn env now i n events rest s h).events, e.isAnswer = false := by
  match rest with
  | .done v =>
    intro e he
    rcases List.mem_append.1 he with hrun | hchange
    · exact isAnswer_map_run e hrun
    · exact isAnswer_changeEvents e hchange
  | .stuck => exact isAnswer_map_run
  | .next (.rounds _) later rest => exact isAnswer_map_run
  | .next (.seconds _ _) later rest => exact isAnswer_map_run

private lemma isAnswer_consultFor [Platform] {pass : Pass} :
    ∀ e ∈ (consultFor env now i pass s h).events, e.isAnswer = false := by
  unfold consultFor
  rw [List.forall_mem_cons]
  refine ⟨rfl, ?_⟩
  split
  · exact isAnswer_changeEvents
  · simp
  · exact isAnswer_goOn

/-- A caller is answered by the job that hands over the result. -/
lemma answered_of_mem_handle [Platform] {j : HostJob} {ticket : Nat}
    {result : Except WaitFault (List Marker)}
    (he : .answered ticket result ∈ (handle env now j h).events) :
    ∃ i, j = .deliver ticket i result := by
  have hno : ∀ {events : List HostEvent}, (∀ e ∈ events, e.isAnswer = false) →
      .answered ticket result ∉ events := by
    intro events hnone hmem
    have hanswer := hnone _ hmem
    cases hanswer
  unfold handle at he
  split at he
  · simp [unchanged] at he
  · next s _ =>
    cases j with
    | fire i serial => exact absurd he (hno isAnswer_changeEvents)
    | begin i n =>
      refine absurd he (hno ?_)
      rw [handleAt]
      split
      · simp [abandon]
      · split
        · simp [unchanged]
        · exact isAnswer_consultFor
    | follow i n rounds events rest =>
      cases rounds with
      | zero => exact absurd he (hno isAnswer_goOn)
      | succ k => simp [handleAt] at he
    | wake i n v =>
      refine absurd he (hno ?_)
      rw [handleAt]
      split
      · simp [abandon]
      · exact isAnswer_changeEvents
    | flush ticket' i text =>
      refine absurd he (hno ?_)
      rw [handleAt, flush]
      split
      · exact isAnswer_changeEvents
      · split <;> exact isAnswer_changeEvents
    | resume ticket' i fault => simp [handleAt] at he
    | deliver ticket' i result' =>
      simp only [handleAt, List.mem_singleton, HostEvent.answered.injEq] at he
      exact ⟨i, by rw [he.1, he.2]⟩

/-- No call from outside answers a caller, or lets one go on. -/
lemma Asked.isAnswer {made : Option (Nat × Happening)}
    {r : Reaction (Host V) HostJob HostEvent} (hasked : Asked env now h made r) :
    (∀ j ∈ r.jobs, j.isAnswer = false) ∧ ∀ e ∈ r.events, e.isAnswer = false := by
  have hwake : ∀ held : List HeldPass, ∀ j ∈ wakeAll held, j.isAnswer = false := by
    intro held j hj
    obtain ⟨_, _, rfl⟩ := List.mem_map.1 hj
    rfl
  cases hasked with
  | update k text =>
    refine ⟨fun j hj => ?_, ?_⟩
    · rcases jobs_update j hj with ⟨n, rfl⟩ | ⟨serial, rfl⟩ <;> rfl
    · unfold Host.update
      split
      · simp [unchanged]
      · exact isAnswer_changeEvents
  | validateNow k text =>
    refine ⟨fun j hj => ?_, ?_⟩
    · obtain ⟨n, rfl⟩ := jobs_validateNow j hj
      rfl
    · unfold Host.validateNow
      split
      · simp [unchanged]
      · exact isAnswer_changeEvents
  | flush ticket k text => simp [Reaction.jobs, HostJob.isAnswer]
  | equip k v d => simp [Reaction.jobs]
  | release text =>
    exact ⟨by simpa [Reaction.jobs, Host.release] using hwake _, by simp [Host.release]⟩
  | teardown k => simp [Reaction.jobs]
  | cancelAll k =>
    exact ⟨by simpa [Reaction.jobs, Host.cancelAll] using hwake _, by simp [Host.cancelAll]⟩

end Answers

end Host

/-! ## What has happened before a caller is answered -/

/-- Whether the pass that a caller waits for has ended with a verdict. -/
def AwaitedEnd (ms : List Moment) (ticket : Nat) : Prop :=
  ∃ m ∈ ms, ∃ pass ∈ m.before.inFlight, pass.awaitedBy = some ticket ∧
    ∃ v, m.happening = .finish pass.number v

/-- Whether the pass that a caller waits for has been cancelled. -/
def AwaitedCancel (ms : List Moment) (ticket : Nat) : Prop :=
  ∃ m ∈ ms, ∃ pass ∈ m.before.inFlight, pass.awaitedBy = some ticket ∧
    m.happening = .cancel pass.number

/-- Whether a caller may be answered with some markers: the pipeline had them when the pass of the
caller had ended, or after the call if that has started no pass. -/
def AnswerOk (slots : List (Slot V)) (ms : List Moment) (ticket : Nat) (markers : List Marker) :
    Prop :=
  ∃ ms₁ ms₂ p, ms = ms₁ ++ ms₂ ∧ (∃ s ∈ slots, s.pipeline.Run ms₁ p) ∧ p.markers = markers ∧
    (AwaitedEnd ms₁ ticket ∨ ∃ ms₀ m text, ms₁ = ms₀ ++ [m] ∧ m.happening = .flush ticket text ∧
      m.change.started = none)

/-- Whether a caller may be answered with a result. -/
def Justified (slots : List (Slot V)) (ms : List Moment) (ticket : Nat) :
    Except WaitFault (List Marker) → Prop
  | .ok markers => AnswerOk slots ms ticket markers
  | .error .cancelled => AwaitedCancel ms ticket
  | .error .receiverRaised => True

/-- Whether a job may let a caller go on, if it does. -/
def HostJob.IsJustified (slots : List (Slot V)) (log : Nat → List Moment) : HostJob → Prop
  | .resume ticket i none => AwaitedEnd (log i) ticket
  | .resume ticket i (some fault) => Justified slots (log i) ticket (.error fault)
  | .deliver ticket i result => Justified slots (log i) ticket result
  | _ => True

section Justified

variable {slots : List (Slot V)} {ms : List Moment} {ticket : Nat}

lemma AwaitedEnd.append (h : AwaitedEnd ms ticket) (more : List Moment) :
    AwaitedEnd (ms ++ more) ticket := by
  obtain ⟨m, hm, hend⟩ := h
  exact ⟨m, List.mem_append_left _ hm, hend⟩

lemma Justified.append {result : Except WaitFault (List Marker)}
    (h : Justified slots ms ticket result) (more : List Moment) :
    Justified slots (ms ++ more) ticket result := by
  match result with
  | .ok markers =>
    obtain ⟨ms₁, ms₂, p, rfl, hrest⟩ := h
    exact ⟨ms₁, ms₂ ++ more, p, List.append_assoc .., hrest⟩
  | .error .cancelled =>
    obtain ⟨m, hm, hcancel⟩ := h
    exact ⟨m, List.mem_append_left _ hm, hcancel⟩
  | .error .receiverRaised => trivial

lemma HostJob.IsJustified.append {log : Nat → List Moment} {j : HostJob}
    (h : j.IsJustified slots log) (more : Nat → List Moment) :
    j.IsJustified slots fun i => log i ++ more i := by
  match j with
  | .resume ticket i none => exact AwaitedEnd.append h (more i)
  | .resume ticket i (some fault) => exact Justified.append h (more i)
  | .deliver ticket i result => exact Justified.append h (more i)
  | .fire .. | .begin .. | .follow .. | .wake .. | .flush .. => trivial

lemma HostJob.isJustified_of_isAnswer {log : Nat → List Moment} {j : HostJob}
    (h : j.isAnswer = false) : j.IsJustified slots log := by
  cases j with
  | resume ticket i fault => cases h
  | deliver ticket i result => cases h
  | _ => trivial

end Justified

namespace Host

variable {slots : List (Slot V)} {log : Nat → List Moment} {sc : Scene (Host V) HostJob HostEvent}

/-- What can happen to the pipeline of the slot of a job happens at a moment. -/
lemma momentsAt_madeBy [Platform] {env : Surroundings V} {h : Host V} {j : HostJob} {s : Slot V}
    {hap : Happening} (hs : h.slots[j.slot]? = some s) (hhap : j.happening? env s h = some hap)
    (hpossible : hap.isPossible s.pipeline = true) :
    momentsAt env h (madeBy env h j) j.slot =
      [⟨s.pipeline, env.receivers h.publications, hap⟩] := by
  rw [madeBy, hs, Option.bind_some, hhap, momentsAt, pipelineAt, hs, happensAt_map, if_pos rfl]
  simp [Pipeline.moments, Option.filter, hpossible]

lemma mem_momentsAt_madeBy [Platform] {env : Surroundings V} {h : Host V} {j : HostJob} {s : Slot V}
    {hap : Happening} (hs : h.slots[j.slot]? = some s) (hhap : j.happening? env s h = some hap)
    (hpossible : hap.isPossible s.pipeline = true) :
    ⟨s.pipeline, env.receivers h.publications, hap⟩ ∈
      momentsAt env h (madeBy env h j) j.slot := by
  rw [momentsAt_madeBy hs hhap hpossible]
  exact List.mem_singleton.2 rfl

/-- What comes of a job that may let a caller go on may do so too. -/
lemma Recorded.justified_of_mem [Platform] {env : Surroundings V} {now : Instant} {j : HostJob}
    (hrec : Recorded slots log sc) (hj : j.IsJustified slots log) :
    ∀ j' ∈ (handle env now j sc.state).jobs,
      j'.IsJustified slots fun i => log i ++ momentsAt env sc.state (madeBy env sc.state j) i := by
  intro j' hj'
  unfold handle at hj'
  split at hj'
  · simp [unchanged, Reaction.jobs] at hj'
  · next s hs =>
    have hpipeline : sc.state.pipelineAt j.slot = some s.pipeline := by rw [pipelineAt, hs]; rfl
    obtain ⟨s₀, hs₀, hrun⟩ := hrec.run s.pipeline hpipeline
    cases successor_of_mem rfl j' hj' with
    | begin n => trivial
    | follow n rounds events rest => trivial
    | raised ticket => trivial
    | settled n v pass ticket hhap hpass hticket =>
      obtain ⟨hmem, rfl⟩ := Pipeline.mem_of_pass?_eq_some hpass
      have hlast := mem_momentsAt_madeBy hs hhap (by rw [Happening.isPossible, hpass]; rfl)
      split
      · trivial
      · exact ⟨_, List.mem_append_right _ hlast, pass, hmem, hticket, v, rfl⟩
    | cancelled n pass ticket hhap hpass hticket =>
      obtain ⟨hmem, rfl⟩ := Pipeline.mem_of_pass?_eq_some hpass
      have hlast := mem_momentsAt_madeBy hs hhap (by rw [Happening.isPossible, hpass]; rfl)
      exact ⟨_, List.mem_append_right _ hlast, pass, hmem, hticket, rfl⟩
    | answered ticket hresume =>
      have hend : AwaitedEnd (log j.slot) ticket := by
        rw [hresume] at hj
        exact hj
      exact ⟨log j.slot, _, s.pipeline, rfl, ⟨s₀, hs₀, hrun⟩, rfl, .inl hend⟩
    | failed ticket fault hresume =>
      have hfault : Justified slots (log j.slot) ticket (.error fault) := by
        rw [hresume] at hj
        exact hj
      exact hfault.append _
    | unstarted ticket text c hflush hchange hstarted =>
      -- the call itself is the last moment before the answer
      have hhap : j.happening? env s sc.state = some (.flush ticket text) := by
        rw [hflush]
        rfl
      have hmoments := momentsAt_madeBy hs hhap rfl
      subst hchange
      refine ⟨_, [], _, (List.append_nil _).symm, ⟨s₀, hs₀, ?_⟩, rfl,
        .inr ⟨log j.slot, _, text, congrArg (log j.slot ++ ·) hmoments, rfl, hstarted⟩⟩
      show s₀.pipeline.Run (log j.slot ++ momentsAt env sc.state (madeBy env sc.state j) j.slot) _
      rw [hmoments]
      exact .step _ _ hrun rfl

/-- **What has happened before a caller is answered.** A caller who gets markers gets those that the
pipeline had when the pass of the caller had ended, or those after the call if it has started no
pass. The pass of a caller who is told that it has been cancelled has been cancelled. -/
theorem Recorded.answered [Platform] (hrec : Recorded slots log sc) :
    (∀ j ∈ sc.jobs, j.IsJustified slots log) ∧
      ∀ ticket result, .answered ticket result ∈ sc.events →
        ∃ i, Justified slots (log i) ticket result := by
  induction hrec with
  | start => exact ⟨nofun, nofun⟩
  | call env now hrec hasked ih =>
    obtain ⟨hjobs, hevents⟩ := hasked.isAnswer
    refine ⟨fun j hj => ?_, fun ticket result he => ?_⟩
    · rcases mem_jobs_after.1 hj with hold | hnew
      · exact (ih.1 j hold).append _
      · exact HostJob.isJustified_of_isAnswer (hjobs j hnew)
    · rcases List.mem_append.1 he with hold | hnew
      · obtain ⟨i, hi⟩ := ih.2 ticket result hold
        exact ⟨i, hi.append _⟩
      · have hanswer := hevents _ hnew
        cases hanswer
  | @work _ _ j rest env now hrec hperm ih =>
    have hjobs : ∀ j' ∈ j :: rest, j'.IsJustified slots _ :=
      fun j' hj' => ih.1 j' (hperm.mem_iff.2 hj')
    refine ⟨fun j' hj' => ?_, fun ticket result he => ?_⟩
    · rcases mem_jobs_after.1 hj' with hold | hnew
      · exact (hjobs j' (List.mem_cons_of_mem j hold)).append _
      · exact hrec.justified_of_mem (hjobs j List.mem_cons_self) j' hnew
    · rcases List.mem_append.1 he with hold | hnew
      · obtain ⟨i, hi⟩ := ih.2 ticket result hold
        exact ⟨i, hi.append _⟩
      · -- the job that hands over the result was there before
        obtain ⟨i, rfl⟩ := answered_of_mem_handle hnew
        have hresult : Justified slots _ ticket result := hjobs _ List.mem_cons_self
        exact ⟨i, hresult.append _⟩

end Host

end Mermaid
