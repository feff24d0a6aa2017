import Mermaid.Proofs.Pipeline.Callers
import Mermaid.Proofs.Pipeline.Notices

/-!
# Slots stand for themselves

What a job does depends on its slot alone, and not on the place of the slot or on the other slots of
the host. Two hosts that have the same slot at two places do the same there, as long as receivers
raise no error and no pass is cancelled. And the callers who are answered are those of the job, or
those who wait for a pass of the slot.

* `HostJob.moveTo` is a job about another slot, and `Host.Moves` compares what comes of the two;
* `Host.Answers` says which callers come into what comes of a job or a call;
* `Host.IsLocal` puts together all that is about one slot, and `Host.isLocal_handle`,
  `Host.isLocal_update` and `Host.isLocal_validateNow` say that jobs and calls are.
-/

namespace Mermaid

variable {V : Type}

namespace HostJob

/-- The same job about another slot. -/
def moveTo (k : Nat) : HostJob → HostJob
  | .fire _ serial => .fire k serial
  | .begin _ n => .begin k n
  | .follow _ n rounds events rest => .follow k n rounds events rest
  | .wake _ n v => .wake k n v
  | .flush ticket _ text => .flush ticket k text
  | .resume ticket _ fault => .resume ticket k fault
  | .deliver ticket _ result => .deliver ticket k result

@[simp] lemma slot_moveTo (k : Nat) (j : HostJob) : (j.moveTo k).slot = k := by
  cases j <;> rfl

lemma moveTo_moveTo (i k : Nat) (j : HostJob) : (j.moveTo i).moveTo k = j.moveTo k := by
  cases j <;> rfl

/-- The caller that a job is done for. -/
def ticket? : HostJob → Option Nat
  | .flush ticket .. | .resume ticket .. | .deliver ticket .. => some ticket
  | _ => none

lemma ticket?_moveTo (k : Nat) (j : HostJob) : (j.moveTo k).ticket? = j.ticket? := by
  cases j <;> rfl

end HostJob

/-- The caller who is answered. -/
def HostEvent.ticket? : HostEvent → Option Nat
  | .answered ticket _ => some ticket
  | _ => none

namespace Host

/-! ## The same slot at two places -/

/-- Whether the same can be seen of two hosts, and the same is left to do at a place of the second.
-/
structure Mirrors (k : Nat) (r r' : Reaction (Host V) HostJob HostEvent) : Prop where
  events : r'.events = r.events
  ready : r'.ready = r.ready.map (HostJob.moveTo k)
  timers : r'.timers = r.timers.map fun t => ⟨t.due, t.job.moveTo k⟩

/-- Whether the same comes of a slot at two places of two hosts. -/
structure Moves (i k : Nat) (s : Slot V) (h h' : Host V)
    (r r' : Reaction (Host V) HostJob HostEvent) : Prop extends Mirrors k r r' where
  slots : ∃ p, r.state.slots = h.slots.set i { s with pipeline := p } ∧
    r'.state.slots = h'.slots.set k { s with pipeline := p }

section Moves

variable {env : Surroundings V} {now : Instant} {i k : Nat} {s : Slot V} {h h' : Host V}

private lemma moveTo_resumeCaller (fault : Option WaitFault) (pass : Option Pass) :
    resumeCaller k fault pass = (resumeCaller i fault pass).map (HostJob.moveTo k) := by
  unfold resumeCaller
  cases pass.bind Pass.awaitedBy <;> rfl

private lemma moveTo_started (started : Option Pass) :
    (started.map fun pass => HostJob.begin k pass.number).toList =
      ((started.map fun pass => HostJob.begin i pass.number).toList).map (HostJob.moveTo k) := by
  cases started <;> rfl

private lemma mirrors_changed (c : Change) : Mirrors k (changed i s c h) (changed k s c h') :=
  ⟨rfl, moveTo_started c.started, rfl⟩

private lemma mirrors_finish (henv : env.IsQuiet) (n : Nat) (v : Verdict) :
    Mirrors k (finish env i n v s h) (finish env k n v s h') := by
  unfold finish
  rw [henv, henv]
  exact ⟨rfl, moveTo_resumeCaller _ _, rfl⟩

private lemma mirrors_goOn (henv : env.IsQuiet) (n : Nat) (events : List RunEvent)
    (rest : Course) :
    Mirrors k (goOn env now i n events rest s h) (goOn env now k n events rest s h') := by
  match rest with
  | .done v =>
    have hfinish : Mirrors k (finish env i n v s h) (finish env k n v s h') :=
      mirrors_finish henv n v
    exact ⟨congrArg (events.map HostEvent.run ++ ·) hfinish.events, hfinish.ready, hfinish.timers⟩
  | .stuck => exact ⟨rfl, rfl, rfl⟩
  | .next (.rounds m) later rest => exact ⟨rfl, rfl, rfl⟩
  | .next (.seconds d m) later rest => exact ⟨rfl, rfl, rfl⟩

private lemma mirrors_consultFor [Platform] (henv : env.IsQuiet) (pass : Pass) :
    Mirrors k (consultFor env now i pass s h) (consultFor env now k pass s h') := by
  have hcons : ∀ r r' : Reaction (Host V) HostJob HostEvent, Mirrors k r r' →
      Mirrors k { r with events := .consulted pass.text :: r.events }
        { r' with events := .consulted pass.text :: r'.events } :=
    fun r r' hr => ⟨congrArg (HostEvent.consulted pass.text :: ·) hr.events, hr.ready, hr.timers⟩
  unfold consultFor
  apply hcons
  cases env.consult s.validator pass.text with
  | answers v => exact mirrors_finish henv pass.number v
  | holds v => exact ⟨rfl, rfl, rfl⟩
  | runs c p => exact mirrors_goOn henv _ _ _

private lemma mirrors_flush (henv : env.IsQuiet) (ticket : Nat) (text : Option Text) :
    Mirrors k (flush env ticket i text s h) (flush env ticket k text s h') := by
  unfold flush
  rw [henv, henv]
  generalize s.pipeline.validateNow {} (some ticket) text = c
  have hchanged : Mirrors k (changed i s c h) (changed k s c h') := mirrors_changed c
  dsimp only
  split
  · exact ⟨hchanged.events, rfl, hchanged.timers⟩
  · split
    · exact hchanged
    · exact ⟨hchanged.events, rfl, hchanged.timers⟩

private lemma mirrors_handleAt [Platform] (henv : env.IsQuiet) (hh : h.cancelled = [])
    (hh' : h'.cancelled = []) (j : HostJob) :
    Mirrors k (handleAt env now i s h j) (handleAt env now k s h' (j.moveTo k)) := by
  -- a host also looks up which passes are cancelled, by their places
  have hstill : ∀ i n, h.isCancelled i n = false := by simp [isCancelled, hh]
  have hstill' : ∀ i n, h'.isCancelled i n = false := by simp [isCancelled, hh']
  cases j with
  | fire _ serial => exact mirrors_changed _
  | begin _ n =>
    simp only [HostJob.moveTo, handleAt, hstill, hstill', Bool.false_eq_true, if_false]
    cases s.pipeline.pass? n with
    | none => exact ⟨rfl, rfl, rfl⟩
    | some pass => exact mirrors_consultFor henv pass
  | follow _ n rounds events rest =>
    cases rounds with
    | zero => exact mirrors_goOn henv n events rest
    | succ m => exact ⟨rfl, rfl, rfl⟩
  | wake _ n v =>
    simp only [HostJob.moveTo, handleAt, hstill, hstill', Bool.false_eq_true, if_false]
    exact mirrors_finish henv n v
  | flush ticket _ text => exact mirrors_flush henv ticket text
  | resume ticket _ fault => exact ⟨rfl, rfl, rfl⟩
  | deliver ticket _ result => exact ⟨rfl, rfl, rfl⟩

private lemma happening?_moveTo [Platform] (hh : h.cancelled = []) (hh' : h'.cancelled = [])
    (j : HostJob) :
    (j.moveTo k).happening? env s h' = j.happening? env s h := by
  cases j with
  | follow _ n rounds events rest => cases rounds <;> rfl
  | begin _ n => simp [HostJob.moveTo, HostJob.happening?, isCancelled, hh, hh']
  | wake _ n v => simp [HostJob.moveTo, HostJob.happening?, isCancelled, hh, hh']
  | _ => rfl

/-- A job does the same at two places. -/
theorem moves_handle [Platform] (henv : env.IsQuiet) (hh : h.cancelled = [])
    (hh' : h'.cancelled = [])
    {j : HostJob} (hs : h.slots[j.slot]? = some s) (hs' : h'.slots[k]? = some s) :
    Moves j.slot k s h h' (handle env now j h) (handle env now (j.moveTo k) h') := by
  have hmirrors : Mirrors k (handle env now j h) (handle env now (j.moveTo k) h') := by
    rw [handle, handle, hs, HostJob.slot_moveTo, hs']
    exact mirrors_handleAt henv hh hh' j
  refine ⟨hmirrors, s.pipeline.after {} (j.happening? env s h), ?_, ?_⟩
  · rw [slots_handle, hs, henv]
  · rw [slots_handle, HostJob.slot_moveTo, hs', henv]
    dsimp only
    rw [happening?_moveTo hh hh']

/-- A new text does the same at two places. -/
theorem moves_update (henv : env.IsQuiet) (text : Text) (hs : h.slots[i]? = some s)
    (hs' : h'.slots[k]? = some s) :
    Moves i k s h h' (h.update env now i text).reaction (h'.update env now k text).reaction := by
  have hmirrors : Mirrors k (h.update env now i text).reaction
      (h'.update env now k text).reaction := by
    unfold update
    rw [hs, hs', henv, henv]
    refine ⟨rfl, moveTo_started _, ?_⟩
    dsimp only
    cases (s.pipeline.update {} now text).2 <;> rfl
  refine ⟨hmirrors, _, slots_update text hs, ?_⟩
  rw [slots_update text hs', henv, henv]

/-- A call to validate at once does the same at two places. -/
theorem moves_validateNow (henv : env.IsQuiet) (text : Option Text) (hs : h.slots[i]? = some s)
    (hs' : h'.slots[k]? = some s) :
    Moves i k s h h' (h.validateNow env i text).reaction
      (h'.validateNow env k text).reaction := by
  have hmirrors : Mirrors k (h.validateNow env i text).reaction
      (h'.validateNow env k text).reaction := by
    unfold validateNow
    rw [hs, hs', henv, henv]
    exact mirrors_changed _
  refine ⟨hmirrors, _, slots_validateNow text hs, ?_⟩
  rw [slots_validateNow text hs', henv, henv]

end Moves

end Host

/-! ## Callers -/

/-- The caller that something happens for. -/
def Happening.ticket? : Happening → Option Nat
  | .flush ticket _ => some ticket
  | _ => none

namespace Pipeline

/-- Whether the callers who wait for a pass are all of some kind. -/
def IsAwaitedBy (callers : Nat → Prop) (p : Pipeline) : Prop :=
  ∀ pass ∈ p.inFlight, ∀ ticket, pass.awaitedBy = some ticket → callers ticket

lemma inFlight_settle (r : Receivers) (v : Verdict) (p : Pipeline) :
    (p.settle r v).pipeline.inFlight = p.inFlight :=
  (settle_numbers r v p).2.1

/-- The only pass that can be new is one that the caller waits for. -/
lemma mem_inFlight_validateNow {r : Receivers} {caller : Option Nat} {text : Option Text}
    {p : Pipeline} {pass : Pass} (hpass : pass ∈ (p.validateNow r caller text).pipeline.inFlight) :
    pass ∈ p.inFlight ∨ pass.awaitedBy = caller := by
  unfold validateNow at hpass
  split at hpass
  · exact .inl hpass
  · dsimp only at hpass
    split at hpass
    · exact .inl hpass
    · rcases List.mem_append.1 hpass with hold | hnew
      · exact .inl hold
      · rw [List.mem_singleton.1 hnew]
        exact .inr rfl

private lemma inFlight_update (r : Receivers) (now : Instant) (text : Text) (p : Pipeline) :
    (p.update r now text).1.pipeline.inFlight = p.inFlight := by
  unfold update
  split
  · rfl
  · dsimp only
    split <;> rfl

private lemma inFlight_finish_subset (r : Receivers) (n : Nat) (v : Verdict) (p : Pipeline) :
    (p.finish r n v).pipeline.inFlight ⊆ p.inFlight := by
  have hdrop : (p.drop n).inFlight ⊆ p.inFlight := List.filter_subset_self _
  unfold finish
  split
  · exact List.Subset.refl _
  · dsimp only
    split
    · exact hdrop
    · rw [inFlight_settle]
      exact hdrop

/-- Whatever happens to a pipeline, the only pass that can be new is one that it happens for. -/
lemma mem_inFlight_respond {r : Receivers} {p : Pipeline} {hap : Happening} {pass : Pass}
    (hpass : pass ∈ (p.respond r hap).pipeline.inFlight) :
    pass ∈ p.inFlight ∨ pass.awaitedBy = hap.ticket? := by
  cases hap with
  | update now text => exact .inl (inFlight_update r now text p ▸ hpass)
  | validateNow text => exact mem_inFlight_validateNow hpass
  | flush ticket text => exact mem_inFlight_validateNow hpass
  | setDelay d => exact .inl hpass
  | teardown => exact .inl hpass
  | fire serial =>
    rw [respond, fire] at hpass
    split at hpass
    · rcases List.mem_append.1 hpass with hold | hnew
      · exact .inl hold
      · rw [List.mem_singleton.1 hnew]
        exact .inr rfl
    · exact .inl hpass
  | finish n v => exact .inl (inFlight_finish_subset r n v p hpass)
  | cancel n => exact .inl (List.mem_of_mem_filter hpass)

lemma IsAwaitedBy.respond {callers : Nat → Prop} {p : Pipeline} (hp : p.IsAwaitedBy callers)
    (r : Receivers) {hap : Happening}
    (hhap : ∀ ticket, hap.ticket? = some ticket → callers ticket) :
    IsAwaitedBy callers (p.respond r hap).pipeline := by
  intro pass hpass ticket hticket
  rcases mem_inFlight_respond hpass with hold | hnew
  · exact hp pass hold ticket hticket
  · exact hhap ticket (hnew ▸ hticket)

end Pipeline

/-- What a job makes happen, happens for the caller of the job. -/
lemma HostJob.ticket?_of_happening? [Platform] {env : Surroundings V} {s : Slot V} {h : Host V}
    {j : HostJob} {hap : Happening} (hhap : j.happening? env s h = some hap) {ticket : Nat}
    (hticket : hap.ticket? = some ticket) : j.ticket? = some ticket := by
  cases hflush : j.isFlush with
  | false =>
    -- other jobs make passes begin and end, which happens for nobody
    have hwork := HostJob.isWork_of_happening? hflush hhap
    have hnone : hap.ticket? = none := by cases hap <;> first | rfl | cases hwork
    rw [hnone] at hticket
    cases hticket
  | true =>
    cases j with
    | flush t i text =>
      obtain rfl := Option.some.inj hhap
      exact hticket
    | _ => cases hflush

/-- A job that comes of a job is done for the same caller, or for one who waits for a pass. -/
lemma HostJob.Successor.ticket [Platform] {env : Surroundings V} {s : Slot V} {h : Host V}
    {j j' : HostJob}
    (hj : j.Successor env s h j') {ticket : Nat} (hticket : j'.ticket? = some ticket) :
    j.ticket? = some ticket ∨ ∃ pass ∈ s.pipeline.inFlight, pass.awaitedBy = some ticket := by
  cases hj with
  | begin n => cases hticket
  | follow n rounds events rest => cases hticket
  | settled n v pass t hhap hpass hawaited =>
    obtain rfl := Option.some.inj hticket
    exact .inr ⟨pass, (Pipeline.mem_of_pass?_eq_some hpass).1, hawaited⟩
  | cancelled n pass t hhap hpass hawaited =>
    obtain rfl := Option.some.inj hticket
    exact .inr ⟨pass, (Pipeline.mem_of_pass?_eq_some hpass).1, hawaited⟩
  | answered t hj => exact .inl (hj ▸ hticket)
  | failed t fault hj => exact .inl (hj ▸ hticket)
  | raised t text hj => exact .inl (hj ▸ hticket)
  | unstarted t text c hj _ _ => exact .inl (hj ▸ hticket)

namespace Host

/-- Whether the callers who come into what comes of a slot are all of some kind. -/
structure Answers (i : Nat) (callers : Nat → Prop) (r : Reaction (Host V) HostJob HostEvent) :
    Prop where
  waiting : ∀ s, r.state.slots[i]? = some s → s.pipeline.IsAwaitedBy callers
  jobs : ∀ j ∈ r.jobs, ∀ ticket, j.ticket? = some ticket → callers ticket
  events : ∀ e ∈ r.events, ∀ ticket, e.ticket? = some ticket → callers ticket

section Answers

variable {env : Surroundings V} {now : Instant} {i : Nat} {s : Slot V} {h : Host V}
  {callers : Nat → Prop}

lemma ticket?_of_mem_changeEvents {name : String} {c : Change} {e : HostEvent}
    (he : e ∈ changeEvents name c) : e.ticket? = none := by
  simp only [changeEvents, List.mem_append, Option.mem_toList, Option.map_eq_some_iff] at he
  rcases he with ⟨_, _, rfl⟩ | ⟨_, _, rfl⟩ <;> rfl

/-- Nobody is answered but by the job that delivers the answer. -/
private lemma ticket?_of_mem_handleAt [Platform] {j : HostJob} {e : HostEvent}
    (he : e ∈ (handleAt env now i s h j).events) {ticket : Nat}
    (hticket : e.ticket? = some ticket) : j.ticket? = some ticket := by
  have hchange : ∀ {name : String} {c : Change} {p : Prop}, e ∈ changeEvents name c → p := by
    intro name c p hmem
    rw [ticket?_of_mem_changeEvents hmem] at hticket
    cases hticket
  have hrun : ∀ {events : List RunEvent} {p : Prop}, e ∈ events.map HostEvent.run → p := by
    intro events p hmem
    obtain ⟨_, _, rfl⟩ := List.mem_map.1 hmem
    cases hticket
  have hgoOn : ∀ {n : Nat} {events : List RunEvent} {rest : Course} {p : Prop},
      e ∈ (goOn env now i n events rest s h).events → p := by
    intro n events rest p hmem
    match rest with
    | .done v => exact (List.mem_append.1 hmem).elim hrun hchange
    | .stuck => exact hrun hmem
    | .next (.rounds k) later rest => exact hrun hmem
    | .next (.seconds d k) later rest => exact hrun hmem
  cases j with
  | fire _ serial => exact hchange he
  | begin _ n =>
    rw [handleAt] at he
    split at he
    · cases he
    · split at he
      · cases he
      · unfold consultFor at he
        rcases List.mem_cons.1 he with rfl | hmem
        · cases hticket
        · split at hmem
          · exact hchange hmem
          · cases hmem
          · exact hgoOn hmem
  | follow _ n rounds events rest =>
    cases rounds with
    | zero => exact hgoOn he
    | succ k => cases he
  | wake _ n v =>
    rw [handleAt] at he
    split at he
    · cases he
    · exact hchange he
  | flush t _ text =>
    rw [handleAt, flush, apply_ite Reaction.events, apply_ite Reaction.events, ite_self,
      ite_self] at he
    exact hchange he
  | resume t _ fault => cases he
  | deliver t _ result =>
    rw [List.mem_singleton.1 he] at hticket
    exact hticket

/-- The callers who come into what comes of a job are its own, or wait for a pass of the slot. -/
theorem answers_handle [Platform] {j : HostJob} (hs : h.slots[j.slot]? = some s)
    (hwaiting : s.pipeline.IsAwaitedBy callers)
    (hj : ∀ ticket, j.ticket? = some ticket → callers ticket) :
    Answers j.slot callers (handle env now j h) where
  waiting := by
    intro s' hs'
    rw [slots_handle, hs] at hs'
    dsimp only at hs'
    rw [List.getElem?_set_self (List.getElem?_eq_some_iff.1 hs).1] at hs'
    obtain rfl := Option.some.inj hs'
    show Pipeline.IsAwaitedBy callers (s.pipeline.after _ _)
    cases hhap : j.happening? env s h with
    | none => exact hwaiting
    | some hap =>
      exact hwaiting.respond _ fun ticket hticket =>
        hj ticket (HostJob.ticket?_of_happening? hhap hticket)
  jobs := by
    intro j' hj' ticket hticket
    rw [handle, hs] at hj'
    rcases (successor_of_mem rfl j' hj').ticket hticket with hown | ⟨pass, hpass, hawaited⟩
    · exact hj ticket hown
    · exact hwaiting pass hpass ticket hawaited
  events := by
    intro e he ticket hticket
    rw [handle, hs] at he
    exact hj ticket (ticket?_of_mem_handleAt he hticket)

/-- No caller comes into what comes of a new text, but those who wait for a pass. -/
theorem answers_update {text : Text} (hs : h.slots[i]? = some s)
    (hwaiting : s.pipeline.IsAwaitedBy callers) :
    Answers i callers (h.update env now i text).reaction where
  waiting := by
    intro s' hs'
    rw [slots_update text hs, List.getElem?_set_self (List.getElem?_eq_some_iff.1 hs).1] at hs'
    obtain rfl := Option.some.inj hs'
    exact hwaiting.respond _ nofun
  jobs := by
    intro j hj ticket hticket
    rcases jobs_update j hj with ⟨n, rfl⟩ | ⟨serial, rfl⟩ <;> cases hticket
  events := by
    intro e he ticket hticket
    rw [update, hs] at he
    rw [ticket?_of_mem_changeEvents he] at hticket
    cases hticket

/-- So it is with a call to validate at once. -/
theorem answers_validateNow {text : Option Text} (hs : h.slots[i]? = some s)
    (hwaiting : s.pipeline.IsAwaitedBy callers) :
    Answers i callers (h.validateNow env i text).reaction where
  waiting := by
    intro s' hs'
    rw [slots_validateNow text hs,
      List.getElem?_set_self (List.getElem?_eq_some_iff.1 hs).1] at hs'
    obtain rfl := Option.some.inj hs'
    exact hwaiting.respond _ nofun
  jobs := by
    intro j hj ticket hticket
    obtain ⟨n, rfl⟩ := jobs_validateNow j hj
    cases hticket
  events := by
    intro e he ticket hticket
    rw [validateNow, hs] at he
    rw [ticket?_of_mem_changeEvents he] at hticket
    cases hticket

end Answers

/-! ## Work that is about one slot -/

/-- Whether something done to a slot, perhaps for a caller, is about that slot alone. -/
structure IsLocal (caller : Option Nat)
    (call : Host V → Nat → Reaction (Host V) HostJob HostEvent) :
    Prop where
  touches : ∀ {h i s}, h.slots[i]? = some s → Touches i s h (call h i)
  moves : ∀ {h h' i k s}, h.cancelled = [] → h'.cancelled = [] → h.slots[i]? = some s →
    h'.slots[k]? = some s → Moves i k s h h' (call h i) (call h' k)
  answers : ∀ {h i s} {callers : Nat → Prop}, h.slots[i]? = some s →
    s.pipeline.IsAwaitedBy callers → (∀ ticket, caller = some ticket → callers ticket) →
    Answers i callers (call h i)
  cancelled : ∀ h i, (call h i).state.cancelled = h.cancelled

section IsLocal

variable {env : Surroundings V}

theorem isLocal_handle [Platform] (henv : env.IsQuiet) (now : Instant) (j : HostJob) :
    IsLocal j.ticket? fun h i => handle env now (j.moveTo i) h where
  touches := by
    intro h i s hs
    have htouches : Touches (j.moveTo i).slot s h (handle env now (j.moveTo i) h) :=
      touches_handle (by rwa [HostJob.slot_moveTo])
    rwa [HostJob.slot_moveTo] at htouches
  moves := by
    intro h h' i k s hh hh' hs hs'
    have hmoves : Moves (j.moveTo i).slot k s h h' (handle env now (j.moveTo i) h)
        (handle env now ((j.moveTo i).moveTo k) h') :=
      moves_handle henv hh hh' (by rwa [HostJob.slot_moveTo]) hs'
    rwa [HostJob.slot_moveTo, HostJob.moveTo_moveTo] at hmoves
  answers := by
    intro h i s callers hs hwaiting hcaller
    have hanswers : Answers (j.moveTo i).slot callers (handle env now (j.moveTo i) h) :=
      answers_handle (by rwa [HostJob.slot_moveTo]) hwaiting (by rwa [HostJob.ticket?_moveTo])
    rwa [HostJob.slot_moveTo] at hanswers
  cancelled := fun _ _ => cancelled_handle ..

theorem isLocal_update (henv : env.IsQuiet) (now : Instant) (text : Text) :
    IsLocal none fun h i => (h.update env now i text).reaction where
  touches := touches_update
  moves := fun _ _ hs hs' => moves_update henv text hs hs'
  answers := fun hs hwaiting _ => answers_update hs hwaiting
  cancelled := by
    intro h i
    unfold update
    split <;> rfl

theorem isLocal_validateNow (henv : env.IsQuiet) (text : Option Text) :
    IsLocal none fun h i => (h.validateNow env i text).reaction where
  touches := touches_validateNow
  moves := fun _ _ hs hs' => moves_validateNow henv text hs hs'
  answers := fun hs hwaiting _ => answers_validateNow hs hwaiting
  cancelled := by
    intro h i
    unfold validateNow
    split <;> rfl

end IsLocal

end Host

end Mermaid
