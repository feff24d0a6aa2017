import Mermaid.Pipeline.Host
import Mermaid.Proofs.EventLoop.Schedule
import Mermaid.Proofs.Pipeline.Run

/-!
# What jobs make happen to pipelines

A job is about one slot of a host, and what it does to the pipeline there is at most one happening:
a timer fires, a pass ends with a verdict or is cancelled, or a caller flushes. All other slots stay
as they are.

* `HostJob.happening?` says what a job makes happen, and `Host.slots_handle` that it does nothing
  else;
* `Host.slots_update`, `Host.slots_validateNow` and `Host.slots_flush` say the same of calls from
  outside;
* `HostJob.Successor` lists the jobs that can come of a job, and `Host.successor_of_mem` says that
  there are no others; none of them brings a text of its own (`HostJob.Successor.isFlush`);
* `Transition.keeps_open` says that a pipeline which is not torn down stays open, and has the text
  that was handed in last.
-/

namespace Mermaid

variable {V : Type}

/-- The verdict of a run that is over. -/
def Course.verdict? : Course → Option Verdict
  | .done v => some v
  | _ => none

/-- The verdict that a validator gives on the spot. -/
def Consultation.verdict? [Platform] (text : Text) : Consultation → Option Verdict
  | .answers v => some v
  | .holds _ => none
  | .runs c p => (c.start p text.raw).2.verdict?

/-- What a job makes happen to the pipeline of its slot. -/
def HostJob.happening? [Platform] (env : Surroundings V) (s : Slot V) (h : Host V) :
    HostJob → Option Happening
  | .fire _ serial => some (.fire serial)
  | .begin i n =>
    if h.isCancelled i n then some (.cancel n)
    else (s.pipeline.pass? n).bind fun pass =>
      ((env.consult s.validator pass.text).verdict? pass.text).map (.finish n)
  | .follow _ n 0 _ rest => rest.verdict?.map (.finish n)
  | .follow _ _ (_ + 1) _ _ => none
  | .wake i n v => some (if h.isCancelled i n then .cancel n else .finish n v)
  | .flush ticket _ text => some (.flush ticket text)
  | .resume .. => none
  | .deliver .. => none

/-- The delay that is set, if one is. -/
def Happening.delay? : Happening → Option Binary64
  | .setDelay delay => some delay
  | _ => none

namespace Pipeline

/-- A pipeline after something that may have happened to it. -/
def after (r : Receivers) (p : Pipeline) (hap : Option Happening) : Pipeline :=
  (hap.map fun hap => (p.respond r hap).pipeline).getD p

@[simp] lemma after_none (r : Receivers) (p : Pipeline) : p.after r none = p := rfl

@[simp] lemma after_some (r : Receivers) (p : Pipeline) (hap : Happening) :
    p.after r (some hap) = (p.respond r hap).pipeline := rfl

/-- Nothing comes of what is not possible. -/
lemma respond_of_impossible {r : Receivers} {p : Pipeline} {hap : Happening}
    (h : hap.isPossible p = false) : p.respond r hap = { pipeline := p } := by
  cases hap with
  | fire serial =>
    have hnot : (p.timer.any fun t => t.serial = serial) = false := h
    rw [respond, fire, hnot, if_neg (by simp)]
  | finish n v =>
    have hnone : p.pass? n = none := by simpa [Happening.isPossible] using h
    rw [respond, finish, hnone]
  | cancel n =>
    have hnone : p.pass? n = none := by simpa [Happening.isPossible] using h
    have hall : ∀ pass ∈ p.inFlight, pass.number ≠ n := by
      simpa [pass?, List.find?_eq_none] using hnone
    rw [respond, drop, List.filter_eq_self.2 (by simpa using hall)]
  | _ => cases h

end Pipeline

/-- Taking an outcome leaves an open pipeline open, and its text and delay as they are. -/
lemma Pipeline.settle_keeps_open (r : Receivers) (v : Verdict) {p : Pipeline}
    (hopen : p.isClosed = false) :
    (p.settle r v).pipeline.isClosed = false ∧ (p.settle r v).pipeline.text = p.text ∧
      (p.settle r v).pipeline.delay = p.delay := by
  have hsettled : ∀ phase, phase ≠ .closed → (p.settled phase).isClosed = false ∧
      (p.settled phase).text = p.text ∧ (p.settled phase).delay = p.delay := by
    intro phase hphase
    unfold settled
    split
    · exact ⟨hopen, rfl, rfl⟩
    · exact ⟨by simpa [isClosed] using hphase, rfl, rfl⟩
  cases v with
  | ok => exact hsettled .clean (by simp)
  | error f => exact hsettled .error (by simp)

/-- Unless it is torn down, an open pipeline stays open; its text and its delay are those that are
handed in, or else those before. -/
lemma Transition.keeps_open {r : Receivers} {p : Pipeline} {h : Happening} {c : Change}
    (ht : Transition r p h c) (hopen : p.isClosed = false) (hteardown : h ≠ .teardown) :
    c.pipeline.isClosed = false ∧ c.pipeline.text = h.text?.getD p.text ∧
      c.pipeline.delay = h.delay?.getD p.delay := by
  -- a call hands in no delay
  have hentered : ∀ h : Happening, h.isEntry = true → h.delay?.getD p.delay = p.delay := by
    intro h hentry
    cases h with
    | setDelay d => cases hentry
    | _ => rfl
  cases ht with
  | ignored _ hclosed _ =>
    rw [hopen] at hclosed
    cases hclosed
  | cleared _ _ hentry _ => exact ⟨rfl, rfl, (hentered h hentry).symm⟩
  | armed _ _ _ hentry _ => exact ⟨rfl, rfl, (hentered h hentry).symm⟩
  | started _ _ _ hentry _ => exact ⟨rfl, rfl, (hentered h hentry).symm⟩
  | fired _ _ => exact ⟨rfl, rfl, rfl⟩
  | settled n v _ _ _ _ _ => exact Pipeline.settle_keeps_open r v (p := p.drop n) hopen
  | outdated _ _ _ => exact ⟨hopen, rfl, rfl⟩
  | cancelled _ => exact ⟨hopen, rfl, rfl⟩
  | tornDown => exact absurd rfl hteardown
  | delayed d => exact ⟨hopen, rfl, rfl⟩

namespace Host

variable {env : Surroundings V} {now : Instant} {i : Nat} {s : Slot V} {h : Host V}

/-- A slot that is put where it was leaves all as it is. -/
private lemma set_self (hs : h.slots[i]? = some s) : h.slots.set i s = h.slots := by
  obtain ⟨hi, rfl⟩ := List.getElem?_eq_some_iff.1 hs
  exact List.set_getElem_self hi

/-- Going on with the run of a command ends its pass when the run is over. -/
private lemma slots_goOn (hs : h.slots[i]? = some s) (n : Nat) (events : List RunEvent)
    (rest : Course) :
    (goOn env now i n events rest s h).state.slots = h.slots.set i { s with
      pipeline := s.pipeline.after (env.receivers h.publications)
        (rest.verdict?.map (.finish n)) } := by
  match rest with
  | .done v => rfl
  | .stuck => exact (set_self hs).symm
  | .next (.rounds k) later rest => exact (set_self hs).symm
  | .next (.seconds d k) later rest => exact (set_self hs).symm

/-- Asking the validator ends the pass when there is an answer on the spot. -/
private lemma slots_consultFor [Platform] (hs : h.slots[i]? = some s) (pass : Pass) :
    (consultFor env now i pass s h).state.slots = h.slots.set i { s with
      pipeline := s.pipeline.after (env.receivers h.publications)
        (((env.consult s.validator pass.text).verdict? pass.text).map (.finish pass.number)) } := by
  unfold consultFor
  cases hc : env.consult s.validator pass.text with
  | answers v => rfl
  | holds v => exact (set_self hs).symm
  | runs c p => exact slots_goOn hs _ _ _

/-- A job does to its slot what it makes happen to the pipeline, and nothing else. -/
lemma slots_handleAt [Platform] (j : HostJob) (hj : i = j.slot) (hs : h.slots[i]? = some s) :
    (handleAt env now i s h j).state.slots = h.slots.set i { s with
      pipeline := s.pipeline.after (env.receivers h.publications) (j.happening? env s h) } := by
  cases j with
  | fire i' serial => rfl
  | begin i' n =>
    obtain rfl : i = i' := hj
    rw [handleAt, HostJob.happening?]
    split
    · rfl
    · cases hpass : s.pipeline.pass? n with
      | none => exact (set_self hs).symm
      | some pass =>
        obtain ⟨-, rfl⟩ := Pipeline.mem_of_pass?_eq_some hpass
        exact slots_consultFor hs pass
  | follow i' n rounds events rest =>
    cases rounds with
    | zero => exact slots_goOn hs n events rest
    | succ k => exact (set_self hs).symm
  | wake i' n v =>
    obtain rfl : i = i' := hj
    rw [handleAt, HostJob.happening?]
    split <;> rfl
  | flush ticket i' text =>
    rw [handleAt, flush, apply_ite Reaction.state, apply_ite Reaction.state, ite_self, ite_self]
    rfl
  | resume ticket i' fault => exact (set_self hs).symm
  | deliver ticket i' result => exact (set_self hs).symm

/-- The slots of a host after a job. -/
theorem slots_handle [Platform] (j : HostJob) (h : Host V) :
    (handle env now j h).state.slots = match h.slots[j.slot]? with
      | none => h.slots
      | some s => h.slots.set j.slot { s with
        pipeline := s.pipeline.after (env.receivers h.publications) (j.happening? env s h) } := by
  unfold handle
  cases hs : h.slots[j.slot]? with
  | none => rfl
  | some s => exact slots_handleAt j rfl hs

private lemma cancelled_goOn (n : Nat) (events : List RunEvent) (rest : Course) :
    (goOn env now i n events rest s h).state.cancelled = h.cancelled := by
  match rest with
  | .done v => rfl
  | .stuck => rfl
  | .next (.rounds m) later rest => rfl
  | .next (.seconds d m) later rest => rfl

/-- No job cancels a pass. -/
lemma cancelled_handle [Platform] (j : HostJob) (h : Host V) :
    (handle env now j h).state.cancelled = h.cancelled := by
  unfold handle
  split
  · rfl
  · next s _ =>
    cases j with
    | begin i n =>
      rw [handleAt]
      split
      · rfl
      · split
        · rfl
        · unfold consultFor
          dsimp only
          split
          · rfl
          · rfl
          · exact cancelled_goOn ..
    | follow i n rounds events rest =>
      cases rounds with
      | zero => exact cancelled_goOn ..
      | succ m => rfl
    | wake i n v =>
      rw [handleAt]
      split <;> rfl
    | flush ticket i text =>
      rw [handleAt, flush, apply_ite Reaction.state, apply_ite Reaction.state, ite_self, ite_self]
      rfl
    | _ => rfl

/-- The slots of a host after a new text for a pipeline. -/
lemma slots_update (text : Text) (hs : h.slots[i]? = some s) :
    (h.update env now i text).reaction.state.slots = h.slots.set i { s with
      pipeline := (s.pipeline.respond (env.receivers h.publications)
        (.update now text)).pipeline } := by
  rw [update, hs]
  rfl

/-- The slots of a host after a call to validate at once. -/
lemma slots_validateNow (text : Option Text) (hs : h.slots[i]? = some s) :
    (h.validateNow env i text).reaction.state.slots = h.slots.set i { s with
      pipeline := (s.pipeline.respond (env.receivers h.publications)
        (.validateNow text)).pipeline } := by
  rw [validateNow, hs]
  rfl

/-- The slots of a host after the same for a caller. -/
lemma slots_flush [Platform] (ticket : Nat) (text : Option Text) (hs : h.slots[i]? = some s) :
    (h.handle env now (.flush ticket i text)).state.slots = h.slots.set i { s with
      pipeline := (s.pipeline.respond (env.receivers h.publications)
        (.flush ticket text)).pipeline } := by
  rw [slots_handle, HostJob.slot, hs]
  rfl

end Host

/-! ## What comes of jobs -/

/-- The jobs that can come of a job, all of them about the same slot. A caller goes on only after
the end of the pass that the caller waits for, or at once if there is no such pass. -/
inductive HostJob.Successor [Platform] (env : Surroundings V) (s : Slot V) (h : Host V)
    (j : HostJob) :
    HostJob → Prop
  | begin (n : Nat) : Successor env s h j (.begin j.slot n)
  | follow (n rounds : Nat) (events : List RunEvent) (rest : Course) :
      Successor env s h j (.follow j.slot n rounds events rest)
  | settled (n : Nat) (v : Verdict) (pass : Pass) (ticket : Nat) :
      j.happening? env s h = some (.finish n v) → s.pipeline.pass? n = some pass →
      pass.awaitedBy = some ticket → Successor env s h j (.resume ticket j.slot
        (if (s.pipeline.finish (env.receivers h.publications) n v).raised
          then some .receiverRaised else none))
  | cancelled (n : Nat) (pass : Pass) (ticket : Nat) :
      j.happening? env s h = some (.cancel n) → s.pipeline.pass? n = some pass →
      pass.awaitedBy = some ticket → Successor env s h j (.resume ticket j.slot (some .cancelled))
  | answered (ticket : Nat) : j = .resume ticket j.slot none →
      Successor env s h j (.deliver ticket j.slot (.ok s.pipeline.markers))
  | failed (ticket : Nat) (fault : WaitFault) : j = .resume ticket j.slot (some fault) →
      Successor env s h j (.deliver ticket j.slot (.error fault))
  | raised (ticket : Nat) (text : Option Text) : j = .flush ticket j.slot text →
      Successor env s h j (.deliver ticket j.slot (.error .receiverRaised))
  | unstarted (ticket : Nat) (text : Option Text) (c : Change) : j = .flush ticket j.slot text →
      c = s.pipeline.respond (env.receivers h.publications) (.flush ticket text) →
      c.started = none → Successor env s h j (.deliver ticket j.slot (.ok c.pipeline.markers))

namespace Host

variable {env : Surroundings V} {now : Instant} {i : Nat} {s : Slot V} {h : Host V} {j : HostJob}

private lemma successor_of_changed [Platform] (hj : i = j.slot) (c : Change) :
    ∀ j' ∈ (changed i s c h).jobs, j.Successor env s h j' := by
  subst hj
  intro j' hj'
  simp only [Reaction.jobs, changed, List.map_nil, List.append_nil, Option.mem_toList,
    Option.map_eq_some_iff] at hj'
  obtain ⟨pass, -, rfl⟩ := hj'
  exact .begin pass.number

private lemma exists_of_mem_resumeCaller {j' : HostJob} {fault : Option WaitFault}
    {pass? : Option Pass} (hj' : j' ∈ resumeCaller i fault pass?) :
    ∃ pass ticket, pass? = some pass ∧ pass.awaitedBy = some ticket ∧
      j' = .resume ticket i fault := by
  simp only [resumeCaller, Option.mem_toList, Option.map_eq_some_iff, Option.bind_eq_some_iff]
    at hj'
  obtain ⟨ticket, ⟨pass, hpass, hticket⟩, rfl⟩ := hj'
  exact ⟨pass, ticket, hpass, hticket, rfl⟩

private lemma successor_of_finish [Platform] (hj : i = j.slot) {n : Nat} {v : Verdict}
    (hhap : j.happening? env s h = some (.finish n v)) :
    ∀ j' ∈ (finish env i n v s h).jobs, j.Successor env s h j' := by
  subst hj
  intro j' hj'
  simp only [Reaction.jobs, finish, List.map_nil, List.append_nil] at hj'
  obtain ⟨pass, ticket, hpass, hticket, rfl⟩ := exists_of_mem_resumeCaller hj'
  exact .settled n v pass ticket hhap hpass hticket

private lemma successor_of_abandon [Platform] (hj : i = j.slot) {n : Nat}
    (hhap : j.happening? env s h = some (.cancel n)) :
    ∀ j' ∈ (abandon i n s h).jobs, j.Successor env s h j' := by
  subst hj
  intro j' hj'
  simp only [Reaction.jobs, abandon, List.map_nil, List.append_nil] at hj'
  obtain ⟨pass, ticket, hpass, hticket, rfl⟩ := exists_of_mem_resumeCaller hj'
  exact .cancelled n pass ticket hhap hpass hticket

private lemma successor_of_goOn [Platform] (hj : i = j.slot) {n : Nat} {events : List RunEvent}
    {rest : Course} (hhap : j.happening? env s h = rest.verdict?.map (.finish n)) :
    ∀ j' ∈ (goOn env now i n events rest s h).jobs, j.Successor env s h j' := by
  match rest with
  | .done v => exact successor_of_finish hj hhap
  | .stuck => simp [goOn, Reaction.jobs]
  | .next (.rounds k) later rest =>
    subst hj
    simp only [goOn, Reaction.jobs, List.map_nil, List.append_nil, List.forall_mem_singleton]
    exact .follow n k later rest
  | .next (.seconds d k) later rest =>
    subst hj
    simp only [goOn, Reaction.jobs, List.map_cons, List.map_nil, List.nil_append,
      List.forall_mem_singleton]
    exact .follow n (k + 1) later rest

private lemma successor_of_consultFor [Platform] (hj : i = j.slot) {pass : Pass}
    (hhap : j.happening? env s h =
      ((env.consult s.validator pass.text).verdict? pass.text).map (.finish pass.number)) :
    ∀ j' ∈ (consultFor env now i pass s h).jobs, j.Successor env s h j' := by
  unfold consultFor
  cases hc : env.consult s.validator pass.text with
  | answers v =>
    rw [hc] at hhap
    exact successor_of_finish hj hhap
  | holds v => simp [Reaction.jobs]
  | runs c p =>
    rw [hc] at hhap
    exact successor_of_goOn hj hhap

/-- Whatever comes of a job is on the list. -/
theorem successor_of_mem [Platform] (hj : i = j.slot) :
    ∀ j' ∈ (handleAt env now i s h j).jobs, j.Successor env s h j' := by
  cases j with
  | fire i' serial => exact successor_of_changed hj _
  | begin i' n =>
    obtain rfl : i = i' := hj
    rw [handleAt]
    split
    · next hcancelled =>
      apply successor_of_abandon (j := .begin i n) rfl
      rw [HostJob.happening?, if_pos hcancelled]
    · next hcancelled =>
      cases hpass : s.pipeline.pass? n with
      | none => simp [unchanged, Reaction.jobs]
      | some pass =>
        obtain ⟨-, rfl⟩ := Pipeline.mem_of_pass?_eq_some hpass
        apply successor_of_consultFor (j := .begin i pass.number) rfl
        rw [HostJob.happening?, if_neg hcancelled, hpass]
        rfl
  | follow i' n rounds events rest =>
    cases rounds with
    | zero => exact successor_of_goOn hj rfl
    | succ k =>
      obtain rfl : i = i' := hj
      simp only [handleAt, Reaction.jobs, List.map_nil, List.append_nil, List.forall_mem_singleton]
      exact .follow n k events rest
  | wake i' n v =>
    obtain rfl : i = i' := hj
    rw [handleAt]
    split
    · next hcancelled =>
      apply successor_of_abandon (j := .wake i n v) rfl
      rw [HostJob.happening?, if_pos hcancelled]
    · next hcancelled =>
      apply successor_of_finish (j := .wake i n v) rfl
      rw [HostJob.happening?, if_neg hcancelled]
  | flush ticket i' text =>
    obtain rfl : i = i' := hj
    rw [handleAt, flush]
    split
    · simp only [Reaction.jobs, changed, List.map_nil, List.append_nil, List.forall_mem_singleton]
      exact .raised ticket text rfl
    · split
      · exact successor_of_changed (j := .flush ticket i text) rfl _
      · next hstarted =>
        simp only [Reaction.jobs, changed, List.map_nil, List.append_nil,
          List.forall_mem_singleton]
        exact .unstarted ticket text _ rfl rfl (by simpa using hstarted)
  | resume ticket i' fault =>
    obtain rfl : i = i' := hj
    simp only [handleAt, Reaction.jobs, List.map_nil, List.append_nil, List.forall_mem_singleton]
    cases fault with
    | none => exact .answered ticket rfl
    | some fault => exact .failed ticket fault rfl
  | deliver ticket i' result => simp [handleAt, Reaction.jobs]

/-- A new text leaves at most a pass to begin and a timer to fall due. -/
lemma jobs_update {text : Text} :
    ∀ j ∈ (h.update env now i text).reaction.jobs,
      (∃ n, j = .begin i n) ∨ ∃ serial, j = .fire i serial := by
  intro j hj
  unfold update at hj
  split at hj
  · simp [unchanged, Reaction.jobs] at hj
  · simp only [Reaction.jobs, changed, List.mem_append, List.mem_map, Option.mem_toList,
      Option.map_eq_some_iff] at hj
    rcases hj with ⟨pass, _, rfl⟩ | ⟨_, ⟨timer, _, rfl⟩, rfl⟩
    · exact .inl ⟨pass.number, rfl⟩
    · exact .inr ⟨timer.serial, rfl⟩

/-- A call to validate at once leaves at most a pass to begin. -/
lemma jobs_validateNow {text : Option Text} :
    ∀ j ∈ (h.validateNow env i text).reaction.jobs, ∃ n, j = .begin i n := by
  intro j hj
  unfold validateNow at hj
  split at hj
  · simp [unchanged, Reaction.jobs] at hj
  · simp only [Reaction.jobs, changed, List.map_nil, List.append_nil, Option.mem_toList,
      Option.map_eq_some_iff] at hj
    obtain ⟨pass, _, rfl⟩ := hj
    exact ⟨pass.number, rfl⟩

end Host

/-! ## Jobs that bring a text -/

/-- Whether something comes of the work of a host: a timer or a pass. -/
def Happening.isWork : Happening → Bool
  | .fire _ | .finish .. | .cancel _ => true
  | _ => false

/-- Whether a job brings a text of its own. -/
def HostJob.isFlush : HostJob → Bool
  | .flush .. => true
  | _ => false

/-- A job that brings no text makes at most a timer fire or a pass end. -/
lemma HostJob.isWork_of_happening? [Platform] {env : Surroundings V} {s : Slot V} {h : Host V}
    {j : HostJob} (hj : j.isFlush = false) {hap : Happening}
    (hhap : j.happening? env s h = some hap) : hap.isWork = true := by
  cases j with
  | fire i serial =>
    obtain rfl : Happening.fire serial = hap := Option.some.inj hhap
    rfl
  | begin i n =>
    rw [happening?] at hhap
    split at hhap
    · obtain rfl : Happening.cancel n = hap := Option.some.inj hhap
      rfl
    · simp only [Option.bind_eq_some_iff, Option.map_eq_some_iff] at hhap
      obtain ⟨pass, -, v, -, rfl⟩ := hhap
      rfl
  | follow i n rounds events rest =>
    cases rounds with
    | zero =>
      obtain ⟨v, -, rfl⟩ := Option.map_eq_some_iff.1 hhap
      rfl
    | succ k => cases hhap
  | wake i n v =>
    rw [happening?, Option.some.injEq] at hhap
    rw [← hhap]
    split <;> rfl
  | flush ticket i text => cases hj
  | resume ticket i fault => cases hhap
  | deliver ticket i result => cases hhap

/-- No job that comes of a job brings a text. -/
lemma HostJob.Successor.isFlush [Platform] {env : Surroundings V} {s : Slot V} {h : Host V}
    {j j' : HostJob} (hj : j.Successor env s h j') : j'.isFlush = false := by
  cases hj <;> rfl

end Mermaid
