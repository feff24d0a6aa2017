import Mermaid.Proofs.Pipeline.Timers

/-!
# What calls do to a timer

A call sets a timer for the text that it updates a pipeline with, or calls off the one that is set,
or leaves it as it is. An event loop goes on to wait for it as it should.

* `Debounce.Call.standing` is how a pipeline stands after a call;
* `Debounce.Waits.absorb` says that a call keeps the invariant of the loop;
* `Debounce.consults_timerStarts` says that the validator is asked about all passes that timers
  start.
-/

namespace Mermaid

namespace Debounce

variable {V : Type} {env : Surroundings V} {now : Instant} {s : Slot V} {h : Host V}

/-! ## What calls do to a timer -/

/-- How a pipeline that stands in some way does so after something that is done about it. -/
def Call.standing (now : Instant) (d : Delay) (st : Standing) : Call V → Standing
  | .update text =>
    if st.isClosed then st
    else if Text.isBlankText text then { st with timer := none, text := text }
    else { st with
      timer := some ⟨st.timersSet, .at (now + d.seconds)⟩
      timersSet := st.timersSet + 1
      text := text }
  | .validateNow text | .flush _ text =>
    if st.isClosed then st else { st with timer := none, text := text.getD st.text }
  | .teardown => { st with timer := none, isClosed := true }
  | .equip _ d => { st with delay := d.value }
  | _ => st

/-- The delay that is in force after something that is done. -/
def Call.delay (d : Delay) : Call V → Delay
  | .equip _ d => d
  | _ => d

lemma Delay.due_after (d : Delay) (now : Instant) :
    Due.after now d.value = .at (now + d.seconds) := by
  have hfinite := d.isFinite
  cases hvalue : d.value with
  | nan => rw [hvalue] at hfinite; cases hfinite
  | infinite negative => rw [hvalue] at hfinite; cases hfinite
  | finite negative significand exponent =>
    rw [hvalue] at hfinite
    rw [Due.after, hfinite]
    all_goals nofun

section Absorb

variable {l : EventLoop (Host V) HostJob} {d d' : Delay} {s' : Slot V}
  {r : Reaction (Host V) HostJob HostEvent}

/-- Time that passes while the loop is held up changes nothing. -/
lemma Waits.holdUp (hl : Waits l s d) (now : Instant) : Waits { l with now := now } s d :=
  ⟨hl.slots, hl.delay, hl.ready, hl.timers, hl.serials, hl.isOpen, hl.due, hl.inOrder⟩

/-- The loop waits as it should after a call that sets no timer. -/
lemma Waits.keep (hl : Waits l s d) (hs' : r.state.slots = [s'])
    (hdelay : s'.pipeline.delay = d'.value) (hready : ∀ j ∈ r.ready, j.isQuiet = true)
    (htimers : r.timers = []) (hset : s'.pipeline.timersSet = s.pipeline.timersSet)
    (htimer : ∀ t, s'.pipeline.timer = some t →
      s.pipeline.timer = some t ∧ s'.pipeline.isClosed = s.pipeline.isClosed) :
    Waits (EventLoop.absorb r l).1 s' d' := by
  have hsame : (EventLoop.absorb r l).1.timers = l.timers := by
    rw [EventLoop.absorb, htimers]
    rfl
  refine ⟨hs', hdelay, fun j hj => ?_, by rw [hsame]; exact hl.timers, ?_, ?_, ?_,
    by rw [hsame]; exact hl.inOrder⟩
  · rcases List.mem_append.1 hj with hold | hnew
    · exact hl.ready j hold
    · exact hready j hnew
  · rw [hsame, hset]
    exact hl.serials
  · intro t ht
    obtain ⟨hset, hclosed⟩ := htimer t ht
    exact hclosed.trans (hl.isOpen t hset)
  · intro t ht
    rw [hsame]
    exact hl.due t (htimer t ht).1

/-- The loop waits as it should after a call that sets a timer: all earlier ones have smaller serial
numbers. -/
lemma Waits.arm (hl : Waits l s d) {due : Instant} (hs' : r.state.slots = [s'])
    (hdelay : s'.pipeline.delay = d'.value) (hready : r.ready = [])
    (htimers : r.timers = [⟨.at due, .fire 0 s.pipeline.timersSet⟩])
    (hset : s'.pipeline.timersSet = s.pipeline.timersSet + 1)
    (htimer : s'.pipeline.timer = some ⟨s.pipeline.timersSet, .at due⟩)
    (hopen : s'.pipeline.isClosed = false) :
    Waits (EventLoop.absorb r l).1 s' d' := by
  have hmem : ∀ u, u ∈ (EventLoop.absorb r l).1.timers ↔
      u = ⟨.at due, .fire 0 s.pipeline.timersSet⟩ ∨ u ∈ l.timers := by
    intro u
    rw [EventLoop.absorb, htimers, EventLoop.mem_addTimers, List.mem_singleton]
  refine ⟨hs', hdelay, ?_, ?_, ?_, fun _ _ => hopen, ?_, ?_⟩
  · intro j hj
    rw [EventLoop.absorb, hready, List.append_nil] at hj
    exact hl.ready j hj
  · intro u hu
    rcases (hmem u).1 hu with rfl | hold
    · exact .inr ⟨0, _, rfl⟩
    · exact hl.timers u hold
  · intro u hu serial hjob
    rw [hset]
    rcases (hmem u).1 hu with rfl | hold
    · cases hjob
      exact Nat.lt_succ_self _
    · exact Nat.lt_succ_of_lt (hl.serials u hold serial hjob)
  · intro t ht
    obtain rfl : ⟨s.pipeline.timersSet, .at due⟩ = t := Option.some.inj (htimer.symm.trans ht)
    refine ⟨due, rfl, (hmem _).2 (.inl rfl), fun u hu hjob => ?_⟩
    rcases (hmem u).1 hu with rfl | hold
    · rfl
    · -- an earlier timer does not have the new serial number
      exact absurd (hl.serials u hold _ hjob) (Nat.lt_irrefl _)
  · rw [EventLoop.absorb, htimers]
    exact hl.inOrder.addTimers (List.forall_mem_singleton.2 Due.noConfusion)

lemma update_of_blank (rec : Receivers) {text : Text} {p : Pipeline} (hopen : p.isClosed = false)
    (hblank : Text.isBlankText text = true) : p.update rec now text =
      (Pipeline.clear rec { p with timer := none, text := text }, none) := by
  rw [Pipeline.update, hopen, if_neg Bool.false_ne_true, if_pos hblank]

lemma update_of_not_blank (rec : Receivers) {text : Text} {p : Pipeline}
    (hopen : p.isClosed = false) (hblank : Text.isBlankText text = false)
    (hdelay : p.delay = d.value) : p.update rec now text =
      ({ pipeline := { p with
          text := text
          timer := some ⟨p.timersSet, .at (now + d.seconds)⟩
          timersSet := p.timersSet + 1
          phase := .pending } }, some ⟨p.timersSet, .at (now + d.seconds)⟩) := by
  rw [Pipeline.update, hopen, if_neg Bool.false_ne_true, hblank, if_neg Bool.false_ne_true]
  simp only [hdelay, d.due_after now]

/-- A new text calls off the timer that is set, and sets another one unless it is blank. -/
lemma Waits.update (hl : Waits l s d) (text : Text) :
    ∃ s', Waits (EventLoop.absorb (l.state.update env l.now 0 text).reaction l).1 s' d ∧
      s'.pipeline.standing = (Call.update text : Call V).standing l.now d s.pipeline.standing := by
  have hslot : l.state.slots[0]? = some s := by
    rw [hl.slots]
    rfl
  have hset : ∀ p : Pipeline, l.state.slots.set 0 { s with pipeline := p } =
      [{ s with pipeline := p }] := by
    intro p
    rw [hl.slots]
    rfl
  rw [Host.update, hslot, Call.standing]
  cases hclosed : s.pipeline.isClosed with
  | true =>
    simp only [Pipeline.update, hclosed, if_true]
    have hsame : ∀ t, s.pipeline.timer = some t →
        s.pipeline.timer = some t ∧ s.pipeline.isClosed = s.pipeline.isClosed :=
      fun t ht => ⟨ht, rfl⟩
    refine ⟨s, hl.keep (hset s.pipeline) hl.delay (List.forall_mem_nil _) rfl rfl hsame, ?_⟩
    rw [Pipeline.isClosed_standing, hclosed, if_pos rfl]
  | false =>
    rw [Pipeline.isClosed_standing, hclosed, if_neg Bool.false_ne_true]
    cases hblank : Text.isBlankText text with
    | true =>
      simp only [update_of_blank _ hclosed hblank]
      refine ⟨_, hl.keep (hset _) hl.delay (List.forall_mem_nil _) rfl rfl ?_, ?_⟩
      · intro t ht
        cases ht
      · rw [Pipeline.standing, Pipeline.standing, hclosed]
        rfl
    | false =>
      simp only [update_of_not_blank _ hclosed hblank hl.delay]
      refine ⟨_, hl.arm (hset _) hl.delay rfl rfl rfl rfl rfl, ?_⟩
      rw [Pipeline.standing, Pipeline.standing, hclosed]
      rfl

variable (now d) in
/-- A call to validate at once calls off the timer that is set. -/
lemma standing_validateNow (rec : Receivers) (caller : Option Nat) (text : Option Text)
    (p : Pipeline) : (p.validateNow rec caller text).pipeline.standing =
      (Call.validateNow text : Call V).standing now d p.standing := by
  rw [Pipeline.validateNow, Call.standing, Pipeline.isClosed_standing]
  cases hclosed : p.isClosed with
  | true => rw [if_pos rfl, if_pos rfl]
  | false =>
    rw [if_neg Bool.false_ne_true, if_neg Bool.false_ne_true]
    dsimp only
    split
    · rw [Pipeline.standing, Pipeline.standing, hclosed]
      rfl
    · rw [Pipeline.standing, Pipeline.standing, hclosed]
      rfl

lemma Waits.validateNow (hl : Waits l s d) {rec : Receivers} {caller : Option Nat}
    {text : Option Text} (hs' : r.state.slots =
      [{ s with pipeline := (s.pipeline.validateNow rec caller text).pipeline }])
    (hready : ∀ j ∈ r.ready, j.isQuiet = true) (htimers : r.timers = []) :
    ∃ s', Waits (EventLoop.absorb r l).1 s' d ∧ s'.pipeline.standing =
      (Call.validateNow text : Call V).standing l.now d s.pipeline.standing := by
  have hstanding := standing_validateNow (V := V) l.now d rec caller text s.pipeline
  refine ⟨{ s with pipeline := (s.pipeline.validateNow rec caller text).pipeline }, ?_, hstanding⟩
  rw [Call.standing, Pipeline.isClosed_standing] at hstanding
  cases hclosed : s.pipeline.isClosed with
  | true =>
    rw [hclosed, if_pos rfl] at hstanding
    refine hl.keep hs' ((congrArg Standing.delay hstanding).trans hl.delay) hready htimers
      (congrArg Standing.timersSet hstanding) fun t ht => ?_
    exact ⟨(congrArg Standing.timer hstanding).symm.trans ht, congrArg Standing.isClosed hstanding⟩
  | false =>
    rw [hclosed, if_neg Bool.false_ne_true] at hstanding
    refine hl.keep hs' ((congrArg Standing.delay hstanding).trans hl.delay) hready htimers
      (congrArg Standing.timersSet hstanding) fun t ht => ?_
    have hnone := (congrArg Standing.timer hstanding).symm.trans ht
    cases hnone

variable (env) in
/-- The loop waits as it should after something that is done. -/
lemma Waits.absorb [Platform] (hl : Waits l s d) (c : Call V) :
    ∃ s', Waits (EventLoop.absorb (c.reaction env l.now l.state) l).1 s' (c.delay d) ∧
      s'.pipeline.standing = c.standing l.now d s.pipeline.standing := by
  have hslot : l.state.slots[0]? = some s := by
    rw [hl.slots]
    rfl
  have hset : ∀ s', l.state.slots.set 0 s' = [s'] := by
    intro s'
    rw [hl.slots]
    rfl
  have hmodify : ∀ f, (l.state.modifySlot 0 f).slots = [f s] := by
    intro f
    rw [Host.modifySlot, hl.slots]
    rfl
  have hsame : ∀ t, s.pipeline.timer = some t →
      s.pipeline.timer = some t ∧ s.pipeline.isClosed = s.pipeline.isClosed := fun t ht => ⟨ht, rfl⟩
  have hwaking : ∀ held : List HeldPass, ∀ j ∈ Host.wakeAll held, j.isQuiet = true := by
    intro held j hj
    obtain ⟨p, -, rfl⟩ := List.mem_map.1 hj
    rfl
  cases c with
  | update text => exact hl.update text
  | validateNow text =>
    refine hl.validateNow ((Host.slots_validateNow text hslot).trans (hset _)) (fun j hj => ?_) ?_
    · obtain ⟨n, rfl⟩ := Host.jobs_validateNow j (List.mem_append_left _ hj)
      rfl
    · rw [Call.reaction, Host.validateNow, hslot]
      rfl
  | flush ticket text =>
    refine hl.validateNow ((Host.slots_flush ticket text hslot).trans (hset _))
      (fun j hj => isQuiet_of_mem_handle env l.now j (List.mem_append_left _ hj)) ?_
    rw [Call.reaction, Host.handle, HostJob.slot, hslot]
    exact Host.timers_flush
  | teardown =>
    refine ⟨_, hl.keep (hmodify _) hl.delay (List.forall_mem_nil _) rfl rfl fun t ht => ?_, rfl⟩
    cases ht
  | equip v d' =>
    exact ⟨_, hl.keep (hmodify _) rfl (List.forall_mem_nil _) rfl rfl hsame, rfl⟩
  | release text =>
    exact ⟨s, hl.keep hl.slots hl.delay (hwaking _) rfl rfl hsame, rfl⟩
  | cancel =>
    exact ⟨s, hl.keep hl.slots hl.delay (hwaking _) rfl rfl hsame, rfl⟩

end Absorb

/-! ## The validator is asked -/

section Consults

variable [Platform] {l : EventLoop (Host V) HostJob}

variable (env) in
/-- Passes get their turns after something that is done. -/
lemma isInTurn_absorb (hl : Host.IsInTurn 0 l) (c : Call V) :
    Host.IsInTurn 0 (EventLoop.absorb (c.reaction env l.now l.state) l).1 := by
  obtain ⟨p, hp, hn⟩ := hl.numbered
  obtain ⟨s, hs, rfl⟩ := Option.map_eq_some_iff.1 hp
  cases c with
  | update text =>
    have hn' := hn.changed (s := s) (Pipeline.update_transition (env.receivers l.state.publications)
      s.pipeline l.now text)
    rw [Call.reaction, Host.update, hs]
    refine hl.absorb ⟨_, Host.pipelineAt_changed hs _, fun j hj n hturn => ?_, hn'.held,
      hn'.cancelled, hn'.flying⟩ fun t ht => ?_
    · simp only [Reaction.jobs, List.mem_append, List.mem_map] at hj
      rcases hj with hold | hnew | ⟨t, ht, rfl⟩
      · exact hn'.jobs j (List.mem_append_left _ hold) n hturn
      · exact hn'.jobs j (List.mem_append_right _ hnew) n hturn
      · obtain ⟨set, -, rfl⟩ := Option.map_eq_some_iff.1 (Option.mem_toList.1 ht)
        cases hturn
    · obtain ⟨set, -, rfl⟩ := Option.map_eq_some_iff.1 (Option.mem_toList.1 ht)
      rfl
  | validateNow text =>
    rw [Call.reaction, Host.validateNow, hs]
    exact hl.absorb_of_timers_eq_nil rfl (Host.pipelineAt_changed hs _)
      (hn.changed (Pipeline.validateNow_transition (env.receivers l.state.publications)
        s.pipeline none (.validateNow text) rfl))
  | flush ticket text =>
    -- the job of the caller is no turn of a pass
    have hn' : Host.Numbered 0 s.pipeline l.state (.flush ticket 0 text :: l.jobs) := by
      refine ⟨fun j hj n hturn => ?_, hn.held, hn.cancelled, hn.flying⟩
      rcases List.mem_cons.1 hj with rfl | hold
      · cases hturn
      · exact hn.jobs j hold n hturn
    obtain ⟨p', hp', hstep, -⟩ := Host.step_handle env l.now (.flush ticket 0 text) hp
    refine hl.absorb ⟨p', hp', hn'.handle (.refl _) hstep⟩ ?_
    rw [Call.reaction, Host.handle, HostJob.slot, hs]
    show ∀ t ∈ (Host.flush env ticket 0 text s l.state).timers, _
    rw [Host.timers_flush]
    exact List.forall_mem_nil _
  | teardown =>
    refine hl.absorb_of_timers_eq_nil rfl (Host.pipelineAt_modifySlot hs _) ?_
    rw [show Reaction.ready _ = [] from rfl, List.append_nil]
    exact ⟨hn.jobs, hn.held, hn.cancelled, hn.flying⟩
  | equip v d =>
    refine hl.absorb_of_timers_eq_nil rfl (Host.pipelineAt_modifySlot hs _) ?_
    rw [show Reaction.ready _ = [] from rfl, List.append_nil]
    exact ⟨hn.jobs, hn.held, hn.cancelled, hn.flying⟩
  | release text =>
    exact hl.absorb_of_timers_eq_nil rfl hp
      (hn.wakeUp List.filter_sublist.subset List.filter_sublist.subset hn.cancelled)
  | cancel =>
    refine hl.absorb_of_timers_eq_nil rfl hp
      (hn.wakeUp List.filter_sublist.subset List.filter_sublist.subset fun n hcancelled => ?_)
    -- the passes that are cancelled now are in flight
    rcases List.mem_append.1 hcancelled with hnew | hold
    · rw [hs] at hnew
      obtain ⟨pass, hpass, heq⟩ := List.mem_map.1 hnew
      cases heq
      exact hn.flying pass hpass
    · exact hn.cancelled n hold

variable (env) in
/-- The validator is asked about every pass that a timer starts. -/
lemma consults_timerStarts (hl : Host.IsInTurn 0 l) (acts : List (Act V)) :
    ∀ start ∈ timerStarts env (doings env acts l),
      Host.Consults env 0 start.2 (doings env acts l) := by
  induction acts generalizing l with
  | nil => exact List.forall_mem_nil _
  | cons act acts ih =>
    cases act with
    | call c => exact ih (isInTurn_absorb env hl c)
    | holdUp seconds => exact ih ⟨hl.numbered, hl.delayed⟩
    | wait seconds =>
      obtain ⟨hl', hconsults⟩ := hl.run env (l.now + seconds)
      intro start hstart
      rw [doings, timerStarts, List.flatMap_append] at hstart
      rcases List.mem_append.1 hstart with hfirst | hrest
      · obtain ⟨d, hd, hmem⟩ := List.mem_flatMap.1 hfirst
        have hpass : start.2 ∈ Host.putInFlight env 0 d := by
          unfold startsByTimer at hmem
          split at hmem
          · obtain ⟨pass, hpass, rfl⟩ := List.mem_map.1 hmem
            exact hpass
          · cases hmem
        obtain ⟨d', hd', hconsulted⟩ := hconsults d hd _ hpass
        exact ⟨d', List.mem_append_left _ hd', hconsulted⟩
      · obtain ⟨d', hd', hconsulted⟩ := ih hl' start hrest
        exact ⟨d', List.mem_append_right _ hd', hconsulted⟩

end Consults

end Debounce

end Mermaid
