import Mathlib.Data.NNRat.Defs
import Mathlib.Tactic.Linarith
import Mermaid.Proofs.Pipeline.Turns

/-!
# What an event loop does to a timer

A pipeline is called while time passes, and sets timers. The loop may be held up, and does not get
to a timer then before it goes on. When it does, the timer starts a pass, or it has been called off
in the meantime. Timers start no other passes.

* `Debounce.Act` lists what can be done about a pipeline on an event loop while time passes, and
  `Debounce.doings` is what the loop does meanwhile;
* `Debounce.timerStarts` are the passes that timers put in flight;
* `Debounce.Waits` is the invariant of the loop, and `Debounce.Waits.run` says what the loop does in
  some time.
-/

namespace Mermaid

namespace Debounce

/-! ## What is done -/

/-- A delay that can be waited for: a finite number of seconds, and not negative. -/
structure Delay where
  value : Binary64
  seconds : Rat
  isFinite : value.toRat? = some seconds
  isNonneg : 0 ≤ seconds

/-- What is done about a pipeline at one time. Passes may be kept back until they are released, and
may be cancelled. -/
inductive Call (V : Type)
  | update (text : Text)
  | validateNow (text : Option Text)
  | flush (ticket : Nat) (text : Option Text)
  | teardown
  | equip (validator : V) (delay : Delay)
  | release (text : Text)
  | cancel

/-- What is done about a pipeline, one thing after the other. -/
inductive Act (V : Type)
  | call (c : Call V)
  /-- Time passes, and the loop works. -/
  | wait (seconds : ℚ≥0)
  /-- Time passes and the loop is held up, or has the next call to do before it gets to the timers
  that fall due meanwhile. -/
  | holdUp (seconds : ℚ≥0)

variable {V : Type}

/-- Whether something calls off a timer that is set. -/
def Call.callsOff : Call V → Bool
  | .update _ | .validateNow _ | .flush .. | .teardown => true
  | _ => false

variable [Platform]

/-- What comes of something that is done about the first pipeline of a host. -/
def Call.reaction (env : Surroundings V) (now : Instant) (h : Host V) :
    Call V → Reaction (Host V) HostJob HostEvent
  | .update text => (h.update env now 0 text).reaction
  | .validateNow text => (h.validateNow env 0 text).reaction
  | .flush ticket text => h.handle env now (.flush ticket 0 text)
  | .teardown => { state := h.teardown 0 }
  | .equip v d => { state := h.modifySlot 0 fun s =>
      { s with validator := v, pipeline := { s.pipeline with delay := d.value } } }
  | .release text => h.release text
  | .cancel => h.cancelAll 0

/-- The jobs that an event loop does while some things are done about its first pipeline. -/
def doings (env : Surroundings V) :
    List (Act V) → EventLoop (Host V) HostJob → List (Doing (Host V) HostJob)
  | [], _ => []
  | .call c :: acts, l => doings env acts (EventLoop.absorb (c.reaction env l.now l.state) l).1
  | .wait seconds :: acts, l =>
    EventLoop.doings (Host.machine env) (l.now + seconds) l ++
      doings env acts (EventLoop.advance (Host.machine env) seconds l).1
  | .holdUp seconds :: acts, l => doings env acts { l with now := l.now + seconds }

/-- The passes that a job puts in flight because a timer falls due, and when. -/
def startsByTimer (env : Surroundings V) (d : Doing (Host V) HostJob) : List (Instant × Pass) :=
  match d.job with
  | .fire .. => (Host.putInFlight env 0 d).map (Prod.mk d.now)
  | _ => []

/-- The passes that timers start. -/
def timerStarts (env : Surroundings V) (ds : List (Doing (Host V) HostJob)) :
    List (Instant × Pass) :=
  ds.flatMap (startsByTimer env)

/-- A pass that a timer is to start: when the timer falls due, since when the loop goes on that gets
to it, and over which text. -/
structure Expected where
  due : Instant
  resumed : Instant
  text : Text
  deriving DecidableEq

/-- Whether a pass that has been started is one that was to be started: it has the text, and starts
at the instant at which the timer fell due, as far as the clock can tell, or when the loop went on
if it was held up then. -/
structure Meets (start : Instant × Pass) (e : Expected) : Prop where
  text : start.2.text = e.text
  notEarly : e.due < start.1 + Platform.resolution ∧ e.resumed ≤ start.1
  notLate : start.1 ≤ max e.due e.resumed

/-! ## What jobs do to a timer -/

/-- How a pipeline stands as far as its timer goes. -/
structure Standing where
  timer : Option SetTimer
  timersSet : Nat
  text : Text
  isClosed : Bool
  delay : Binary64

end Debounce

/-- The timer of a pipeline, and what bears on the next one that is set. -/
def Pipeline.standing (p : Pipeline) : Debounce.Standing :=
  ⟨p.timer, p.timersSet, p.text, p.isClosed, p.delay⟩

lemma Pipeline.isClosed_standing (p : Pipeline) : p.standing.isClosed = p.isClosed := rfl

/-- Whether a job neither falls due with a timer nor calls a pipeline. -/
def HostJob.isQuiet : HostJob → Bool
  | .fire .. | .flush .. => false
  | _ => true

namespace Debounce

variable {V : Type} {env : Surroundings V} {now : Instant} {s : Slot V} {h : Host V}

/-- The end of a pass changes nothing about the timer. -/
lemma standing_finish (r : Receivers) (n : Nat) (v : Verdict) (p : Pipeline) :
    (p.finish r n v).pipeline.standing = p.standing := by
  have hsettled : ∀ phase, phase ≠ .closed → p.isClosed = false →
      ((p.drop n).settled phase).standing = p.standing := by
    intro phase hphase hopen
    unfold Pipeline.settled
    split
    · rfl
    · have hclosed : Pipeline.isClosed { p.drop n with phase := phase } = false := by
        simpa [Pipeline.isClosed] using hphase
      rw [Pipeline.standing, Pipeline.standing, hclosed, hopen]
      rfl
  unfold Pipeline.finish
  cases p.pass? n with
  | none => rfl
  | some pass =>
    dsimp only
    split
    · rfl
    · next hnew =>
      have hopen : p.isClosed = false := by
        have hnot : ¬(p.drop n).isClosed = true := fun hclosed => hnew (by rw [hclosed]; rfl)
        exact Bool.eq_false_iff.2 hnot
      cases v with
      | ok => exact hsettled .clean (by simp) hopen
      | error f => exact hsettled .error (by simp) hopen

section Work

variable [Platform]

/-- A quiet job can only end a pass. -/
lemma isEnd_of_isQuiet {j : HostJob} (hj : j.isQuiet = true) {hap : Happening}
    (hhap : j.happening? env s h = some hap) :
    (∃ n v, hap = .finish n v) ∨ ∃ n, hap = .cancel n := by
  cases j with
  | fire i serial => cases hj
  | flush ticket i text => cases hj
  | resume ticket i fault => cases hhap
  | deliver ticket i result => cases hhap
  | begin i n =>
    rw [HostJob.happening?] at hhap
    split at hhap
    · obtain rfl := Option.some.inj hhap
      exact .inr ⟨n, rfl⟩
    · obtain ⟨pass, -, hverdict⟩ := Option.bind_eq_some_iff.1 hhap
      obtain ⟨v, -, rfl⟩ := Option.map_eq_some_iff.1 hverdict
      exact .inl ⟨n, v, rfl⟩
  | follow i n rounds events rest =>
    cases rounds with
    | zero =>
      obtain ⟨v, -, rfl⟩ := Option.map_eq_some_iff.1 hhap
      exact .inl ⟨n, v, rfl⟩
    | succ k => cases hhap
  | wake i n v =>
    obtain rfl := Option.some.inj hhap
    split
    · exact .inr ⟨n, rfl⟩
    · exact .inl ⟨n, v, rfl⟩

/-- A quiet job changes nothing about the timer. -/
lemma standing_of_isQuiet {j : HostJob} (hj : j.isQuiet = true) (r : Receivers) :
    (s.pipeline.after r (j.happening? env s h)).standing = s.pipeline.standing := by
  cases hhap : j.happening? env s h with
  | none => rfl
  | some hap =>
    rcases isEnd_of_isQuiet hj hhap with ⟨n, v, rfl⟩ | ⟨n, rfl⟩
    · exact standing_finish r n v s.pipeline
    · rfl

variable (env now) in
/-- What comes of a job is quiet. -/
lemma isQuiet_of_mem_handle {j : HostJob} :
    ∀ j' ∈ (h.handle env now j).jobs, j'.isQuiet = true := by
  intro j' hj'
  unfold Host.handle at hj'
  split at hj'
  · simp [Host.unchanged, Reaction.jobs] at hj'
  · next s hs => cases Host.successor_of_mem rfl j' hj' <;> rfl

/-- Whether some jobs include the one that fires the timer of a pipeline. -/
def Fires (p : Pipeline) (js : List HostJob) : Prop :=
  ∃ t, p.timer = some t ∧ HostJob.fire 0 t.serial ∈ js

/-- Whether a job is left by some work: it is quiet, or falls due with a timer. -/
def IsLeft (j : HostJob) : Prop := j.isQuiet = true ∨ ∃ i serial, j = .fire i serial

/-- In a host with one pipeline, the passes that are put in flight are those behind the others. -/
lemma putInFlight_eq {j : HostJob} {s' : Slot V} (hs : h.slots = [s])
    (hs' : (h.handle env now j).state.slots = [s']) :
    Host.putInFlight env 0 ⟨now, j, h⟩ =
      s'.pipeline.inFlight.drop s.pipeline.inFlight.length := by
  simp only [Host.putInFlight, Host.flyingAt, Host.pipelineAt, hs, hs', List.getElem?_cons_zero,
    Option.map_some, Option.getD_some]

variable (env now) in
/-- The only pipeline of a host after a job that is not the one of its timer: the job starts no pass
by a timer, and leaves the timer as it is. -/
lemma handle_of_not_fires {j : HostJob} (hj : IsLeft j) (hs : h.slots = [s])
    (hfires : ¬Fires s.pipeline [j]) :
    startsByTimer env ⟨now, j, h⟩ = [] ∧ ∃ s' : Slot V,
      (h.handle env now j).state.slots = [s'] ∧ s'.pipeline.standing = s.pipeline.standing := by
  have hslots : (h.handle env now j).state.slots = _ := Host.slots_handle j h
  rcases hj with hquiet | ⟨i, serial, rfl⟩
  · have hnone : startsByTimer env ⟨now, j, h⟩ = [] := by
      cases j with
      | fire i serial => cases hquiet
      | _ => rfl
    refine ⟨hnone, ?_⟩
    rw [hslots, hs]
    cases hslot : j.slot with
    | zero => exact ⟨_, rfl, standing_of_isQuiet hquiet _⟩
    | succ k => exact ⟨s, rfl, rfl⟩
  · have hsame : (h.handle env now (.fire i serial)).state.slots = [s] := by
      rw [hslots, hs]
      cases i with
      | succ k => rfl
      | zero =>
        have hnot : (s.pipeline.timer.any fun t => t.serial = serial) = false := by
          rw [Bool.eq_false_iff]
          intro hany
          obtain ⟨t, ht, hserial⟩ := (Option.any_eq_true _ _).1 hany
          refine hfires ⟨t, ht, ?_⟩
          rw [of_decide_eq_true hserial]
          exact List.mem_singleton_self _
        have hfire : s.pipeline.fire serial = { pipeline := s.pipeline } := by
          rw [Pipeline.fire, hnot, if_neg Bool.false_ne_true]
        show [{ s with pipeline := (s.pipeline.fire serial).pipeline }] = [s]
        rw [hfire]
    refine ⟨?_, s, hsame, rfl⟩
    show (Host.putInFlight env 0 ⟨now, .fire i serial, h⟩).map _ = []
    rw [putInFlight_eq hs hsame, List.drop_length]
    rfl

variable (env now) in
/-- The timer of an open pipeline fires: a pass over its text is put in flight. -/
lemma handle_of_fires {t : SetTimer} (hs : h.slots = [s]) (ht : s.pipeline.timer = some t)
    (hopen : s.pipeline.isClosed = false) :
    ∃ pass : Pass, pass.text = s.pipeline.text ∧
      startsByTimer env ⟨now, .fire 0 t.serial, h⟩ = [(now, pass)] ∧
      ∃ s' : Slot V, (h.handle env now (.fire 0 t.serial)).state.slots = [s'] ∧
        s'.pipeline.standing = { s.pipeline.standing with timer := none } := by
  have hfire : s.pipeline.fire t.serial =
      Pipeline.start none { s.pipeline with timer := none } := by
    rw [Pipeline.fire, ht]
    simp
  have hslots : (h.handle env now (.fire 0 t.serial)).state.slots =
      [{ s with
          pipeline := (Pipeline.start none { s.pipeline with timer := none }).pipeline }] := by
    rw [← hfire, Host.slots_handle, hs]
    rfl
  refine ⟨⟨s.pipeline.issued + 1, s.pipeline.text, none⟩, rfl, ?_, _, hslots, ?_⟩
  · show (Host.putInFlight env 0 ⟨now, .fire 0 t.serial, h⟩).map _ = _
    rw [putInFlight_eq hs hslots]
    show ((s.pipeline.inFlight ++ _).drop s.pipeline.inFlight.length).map _ = _
    rw [List.drop_left]
    rfl
  · rw [Pipeline.standing, Pipeline.standing, hopen]
    rfl

/-! ## What the loop does to a timer -/

/-- What the loop, which goes on since some time, does until an instant to a pipeline that stands in
some way. Its timer falls due, and a pass starts that meets what was expected of it; or no timer
falls due by then, and none starts a pass. -/
inductive Worked (resumed limit : Instant) (st : Standing) :
    Standing → List (Instant × Pass) → Prop
  | fired (t : SetTimer) (due now : Instant) (pass : Pass) : st.timer = some t → t.due = .at due →
      due < limit + Platform.resolution → Meets (now, pass) ⟨due, resumed, st.text⟩ →
      Worked resumed limit st { st with timer := none } [(now, pass)]
  | rested : (∀ t due, st.timer = some t → t.due = .at due →
      limit + Platform.resolution ≤ due) → Worked resumed limit st st []

lemma timerStarts_doJobs_cons (j : HostJob) (js : List HostJob) :
    timerStarts env (EventLoop.doJobs (Host.machine env).traced now h (j :: js)).events =
      startsByTimer env ⟨now, j, h⟩ ++ timerStarts env
        (EventLoop.doJobs (Host.machine env).traced now (h.handle env now j).state js).events :=
  List.flatMap_cons

variable (env now) in
/-- The only pipeline of a host after jobs among which the one of its timer is not. -/
lemma doJobs_of_not_fires {js : List HostJob} (hjs : ∀ j ∈ js, IsLeft j) (hs : h.slots = [s])
    (hfires : ¬Fires s.pipeline js) :
    timerStarts env (EventLoop.doJobs (Host.machine env).traced now h js).events = [] ∧
      ∃ s' : Slot V, (EventLoop.doJobs (Host.machine env).traced now h js).state.slots = [s'] ∧
        s'.pipeline.standing = s.pipeline.standing := by
  induction js generalizing h s with
  | nil => exact ⟨rfl, s, hs, rfl⟩
  | cons j js ih =>
    have hhead : ¬Fires s.pipeline [j] := fun ⟨t, ht, hmem⟩ =>
      hfires ⟨t, ht, List.mem_cons.2 (.inl (List.mem_singleton.1 hmem))⟩
    obtain ⟨hnone, s₁, hs₁, hstanding₁⟩ :=
      handle_of_not_fires env now (hjs j List.mem_cons_self) hs hhead
    have htimer : s₁.pipeline.timer = s.pipeline.timer := congrArg Standing.timer hstanding₁
    have htail : ¬Fires s₁.pipeline js := fun ⟨t, ht, hmem⟩ =>
      hfires ⟨t, htimer ▸ ht, List.mem_cons_of_mem j hmem⟩
    obtain ⟨hstarts, s₂, hs₂, hstanding₂⟩ :=
      ih (fun j hj => hjs j (List.mem_cons_of_mem _ hj)) hs₁ htail
    refine ⟨?_, s₂, hs₂, hstanding₂.trans hstanding₁⟩
    rw [timerStarts_doJobs_cons, hnone, hstarts]
    rfl

variable (env now) in
/-- The only pipeline of a host after jobs among which the one of its timer is. -/
lemma doJobs_of_fires {js : List HostJob} (hjs : ∀ j ∈ js, IsLeft j) (hs : h.slots = [s])
    (hopen : s.pipeline.isClosed = false) (hfires : Fires s.pipeline js) :
    ∃ pass : Pass, pass.text = s.pipeline.text ∧
      timerStarts env (EventLoop.doJobs (Host.machine env).traced now h js).events = [(now, pass)] ∧
      ∃ s' : Slot V, (EventLoop.doJobs (Host.machine env).traced now h js).state.slots = [s'] ∧
        s'.pipeline.standing = { s.pipeline.standing with timer := none } := by
  induction js generalizing h s with
  | nil =>
    obtain ⟨t, -, hmem⟩ := hfires
    cases hmem
  | cons j js ih =>
    have hrest : ∀ j ∈ js, IsLeft j := fun j hj => hjs j (List.mem_cons_of_mem _ hj)
    by_cases hhead : Fires s.pipeline [j]
    · -- the timer fires, and is not set any more for the jobs that are left
      obtain ⟨t, ht, hmem⟩ := hhead
      obtain rfl : HostJob.fire 0 t.serial = j := List.mem_singleton.1 hmem
      obtain ⟨pass, htext, hstart, s₁, hs₁, hstanding₁⟩ :=
        handle_of_fires env now hs ht hopen
      have htimer : s₁.pipeline.timer = none := congrArg Standing.timer hstanding₁
      have htail : ¬Fires s₁.pipeline js := fun ⟨t', ht', _⟩ => by
        rw [htimer] at ht'
        cases ht'
      obtain ⟨hstarts, s₂, hs₂, hstanding₂⟩ := doJobs_of_not_fires env now
        hrest hs₁ htail
      refine ⟨pass, htext, ?_, s₂, hs₂, hstanding₂.trans hstanding₁⟩
      rw [timerStarts_doJobs_cons, hstart, hstarts]
      rfl
    · obtain ⟨hnone, s₁, hs₁, hstanding₁⟩ :=
        handle_of_not_fires env now (hjs j List.mem_cons_self) hs hhead
      have htimer : s₁.pipeline.timer = s.pipeline.timer := congrArg Standing.timer hstanding₁
      have htext₁ : s₁.pipeline.text = s.pipeline.text := congrArg Standing.text hstanding₁
      have hopen₁ : s₁.pipeline.isClosed = false :=
        (congrArg Standing.isClosed hstanding₁).trans hopen
      have htail : Fires s₁.pipeline js := by
        obtain ⟨t, ht, hmem⟩ := hfires
        refine ⟨t, htimer.trans ht, ?_⟩
        rcases List.mem_cons.1 hmem with heq | hmem
        · exact absurd ⟨t, ht, List.mem_singleton.2 heq⟩ hhead
        · exact hmem
      obtain ⟨pass, htext, hstarts, s₂, hs₂, hstanding₂⟩ := ih hrest hs₁ hopen₁ htail
      rw [hstanding₁] at hstanding₂
      refine ⟨pass, htext.trans htext₁, ?_, s₂, hs₂, hstanding₂⟩
      rw [timerStarts_doJobs_cons, hnone, hstarts]
      rfl

variable (env now) in
/-- What comes of jobs is quiet. -/
lemma isQuiet_of_mem_doJobs (js : List HostJob) (h : Host V) :
    (∀ j ∈ (EventLoop.doJobs (Host.machine env) now h js).ready, j.isQuiet = true) ∧
      ∀ t ∈ (EventLoop.doJobs (Host.machine env) now h js).timers, t.job.isQuiet = true := by
  induction js generalizing h with
  | nil => exact ⟨List.forall_mem_nil _, List.forall_mem_nil _⟩
  | cons j js ih =>
    have hquiet := isQuiet_of_mem_handle env now (h := h) (j := j)
    obtain ⟨hready, htimers⟩ := ih (h.handle env now j).state
    refine ⟨fun j' hj' => ?_, fun t ht => ?_⟩
    · rcases List.mem_append.1 hj' with hfirst | hrest
      · exact hquiet j' (List.mem_append_left _ hfirst)
      · exact hready j' hrest
    · rcases List.mem_append.1 ht with hfirst | hrest
      · exact hquiet t.job (List.mem_append_right _ (List.mem_map_of_mem hfirst))
      · exact htimers t hrest

/-! ## The invariant of the loop -/

/-- Whether an event loop waits for the timer of its only pipeline as it should. All that is left
to do is quiet or falls due with a timer. The timer that is set is one of the loop, and of all
timers only it has its serial number. -/
structure Waits (l : EventLoop (Host V) HostJob) (s : Slot V) (d : Delay) : Prop where
  slots : l.state.slots = [s]
  delay : s.pipeline.delay = d.value
  ready : ∀ j ∈ l.ready, j.isQuiet = true
  timers : ∀ u ∈ l.timers, IsLeft u.job
  serials : ∀ u ∈ l.timers, ∀ serial, u.job = .fire 0 serial → serial < s.pipeline.timersSet
  isOpen : ∀ t, s.pipeline.timer = some t → s.pipeline.isClosed = false
  due : ∀ t, s.pipeline.timer = some t → ∃ due, t.due = .at due ∧
    ⟨.at due, .fire 0 t.serial⟩ ∈ l.timers ∧
    ∀ u ∈ l.timers, u.job = .fire 0 t.serial → u.due = .at due
  inOrder : EventLoop.InOrder l.timers

/-- Whether a loop that goes on since some time has not passed over the timer that is set. -/
structure OnTime (resumed : Instant) (l : EventLoop (Host V) HostJob) (s : Slot V) : Prop where
  since : resumed ≤ l.now
  due : ∀ t due, s.pipeline.timer = some t → t.due = .at due → l.now ≤ max due resumed

section Round

variable {l : EventLoop (Host V) HostJob} {d : Delay} {limit : Instant}

variable (now) in
/-- All jobs of a round are left by some work. -/
lemma Waits.isLeft_of_mem_batch (hl : Waits l s d) :
    ∀ j ∈ EventLoop.batch now l, IsLeft j := by
  intro j hj
  rcases List.mem_append.1 hj with hready | hdue
  · exact .inl (hl.ready j hready)
  · obtain ⟨u, hu, rfl⟩ := List.mem_map.1 hdue
    exact hl.timers u ((EventLoop.mem_dueAt hl.inOrder).1 hu).1

/-- The timer fires in a round if it is due then. -/
lemma Waits.fires_iff (hl : Waits l s d) {t : SetTimer} {due : Instant}
    (ht : s.pipeline.timer = some t) (hdue : t.due = .at due) :
    Fires s.pipeline (EventLoop.batch now l) ↔ due < now + Platform.resolution := by
  obtain ⟨due', hdue', hmem, hunique⟩ := hl.due t ht
  obtain rfl : due = due' := Due.at.inj (hdue.symm.trans hdue')
  constructor
  · intro ⟨t', ht', hfire⟩
    obtain rfl : t = t' := Option.some.inj (ht.symm.trans ht')
    rcases List.mem_append.1 hfire with hready | hbatch
    · cases hl.ready _ hready
    · obtain ⟨u, hu, hjob⟩ := List.mem_map.1 hbatch
      obtain ⟨htimer, hisDue⟩ := (EventLoop.mem_dueAt hl.inOrder).1 hu
      rw [hunique u htimer hjob] at hisDue
      exact of_decide_eq_true hisDue
  · intro hlt
    refine ⟨t, ht, List.mem_append_right _ ?_⟩
    exact List.mem_map.2
      ⟨_, (EventLoop.mem_dueAt hl.inOrder).2 ⟨hmem, decide_eq_true hlt⟩, rfl⟩

variable (now) in
/-- The loop waits as it should after a round, if the timer that is still set is not due. -/
lemma Waits.after_round (hl : Waits l s d) {s' : Slot V}
    (hs' : (EventLoop.round (Host.machine env) now l).1.state.slots = [s'])
    (hstanding : s'.pipeline.standing =
      { s.pipeline.standing with timer := s'.pipeline.timer })
    (htimer : ∀ t, s'.pipeline.timer = some t → s.pipeline.timer = some t ∧
      ∀ due, t.due = .at due → now + Platform.resolution ≤ due) :
    Waits (EventLoop.round (Host.machine env) now l).1 s' d := by
  have hset : s'.pipeline.timersSet = s.pipeline.timersSet := congrArg Standing.timersSet hstanding
  have hclosed : s'.pipeline.isClosed = s.pipeline.isClosed := congrArg Standing.isClosed hstanding
  obtain ⟨hready, htimers⟩ := isQuiet_of_mem_doJobs env now
    (EventLoop.batch now l) l.state
  have hmem : ∀ u ∈ (EventLoop.round (Host.machine env) now l).1.timers,
      u.job.isQuiet = true ∨ u ∈ l.timers := fun u hu =>
    (EventLoop.mem_addTimers.1 hu).imp (htimers u)
      fun hlater => EventLoop.subset_laterThan now l.timers hlater
  -- what falls due with a timer of the pipeline has been there before, since new jobs are quiet
  have hold : ∀ u ∈ (EventLoop.round (Host.machine env) now l).1.timers, ∀ serial,
      u.job = .fire 0 serial → u ∈ l.timers := by
    intro u hu serial hjob
    refine (hmem u hu).resolve_left fun hquiet => ?_
    rw [hjob] at hquiet
    cases hquiet
  refine ⟨hs', (congrArg Standing.delay hstanding).trans hl.delay, hready, ?_, ?_, ?_, ?_, ?_⟩
  · intro u hu
    rcases hmem u hu with hquiet | hlater
    · exact .inl hquiet
    · exact hl.timers u hlater
  · intro u hu serial hjob
    rw [hset]
    exact hl.serials u (hold u hu serial hjob) serial hjob
  · intro t ht
    rw [hclosed]
    exact hl.isOpen t (htimer t ht).1
  · intro t ht
    obtain ⟨hset, hlater⟩ := htimer t ht
    obtain ⟨due, hdue, hmem, hunique⟩ := hl.due t hset
    refine ⟨due, hdue, EventLoop.mem_addTimers.2 (.inr ?_), ?_⟩
    · refine (EventLoop.mem_laterThan hl.inOrder).2 ⟨hmem, decide_eq_false ?_⟩
      exact not_lt.2 (hlater due hdue)
    · intro u hu hjob
      exact hunique u (hold u hu t.serial hjob) hjob
  · exact hl.inOrder.round (Host.isTimely_machine env) now

/-- No round passes over the timer. -/
lemma Waits.le_max_due (hl : Waits l s d) (hround : EventLoop.roundTime? limit l = some now)
    {resumed : Instant} (hon : OnTime resumed l s) {t : SetTimer} {due : Instant}
    (ht : s.pipeline.timer = some t) (hdue : t.due = .at due) : now ≤ max due resumed := by
  obtain ⟨due', hdue', hmem, -⟩ := hl.due t ht
  obtain rfl : due = due' := Due.at.inj (hdue.symm.trans hdue')
  exact (EventLoop.roundTime?_le_max hl.inOrder hround hmem rfl).trans
    (max_le (le_max_left due resumed) (hon.due t due ht hdue))

variable (env) in
/-- A round of the loop. -/
lemma Waits.round (hl : Waits l s d) (hround : EventLoop.roundTime? limit l = some now)
    (hle : l.now ≤ limit) {resumed : Instant} (hon : OnTime resumed l s) :
    ∃ s', Waits (EventLoop.round (Host.machine env) now l).1 s' d ∧
      OnTime resumed (EventLoop.round (Host.machine env) now l).1 s' ∧
      Worked resumed now s.pipeline.standing s'.pipeline.standing
        (timerStarts env (EventLoop.round (Host.machine env).traced now l).2) := by
  have hjobs := hl.isLeft_of_mem_batch now
  have hresumed : resumed ≤ now := hon.since.trans (EventLoop.le_roundTime? hround hle)
  have hstate : (EventLoop.round (Host.machine env) now l).1.state =
      (EventLoop.doJobs (Host.machine env).traced now l.state (EventLoop.batch now l)).state :=
    (EventLoop.doJobs_traced _ now _ _).1.symm
  by_cases hfires : Fires s.pipeline (EventLoop.batch now l)
  · -- the timer is among the jobs of the round, so it is due, and the round does not come late
    obtain ⟨t, ht, -⟩ := id hfires
    obtain ⟨due, hdue, -, -⟩ := hl.due t ht
    obtain ⟨pass, htext, hstarts, s', hs', hstanding⟩ := doJobs_of_fires env now
      hjobs hl.slots (hl.isOpen t ht) hfires
    have htimer : s'.pipeline.timer = none := congrArg Standing.timer hstanding
    have hnone : ∀ t', s'.pipeline.timer ≠ some t' := fun t' ht' => by
      rw [htimer] at ht'
      cases ht'
    refine ⟨s', hl.after_round now (by rw [hstate, hs']) (by rw [hstanding, htimer])
      fun t' ht' => absurd ht' (hnone t'), ⟨hresumed, fun t' _ ht' => absurd ht' (hnone t')⟩, ?_⟩
    have hlt := (hl.fires_iff ht hdue).1 hfires
    have hmeets : Meets (now, pass) ⟨due, resumed, s.pipeline.text⟩ :=
      ⟨htext, ⟨hlt, hresumed⟩, hl.le_max_due hround hon ht hdue⟩
    rw [hstanding, EventLoop.round, hstarts]
    exact .fired t due now pass ht hdue hlt hmeets
  · -- the timer is not among them, so it is not due
    obtain ⟨hstarts, s', hs', hstanding⟩ := doJobs_of_not_fires env now hjobs hl.slots hfires
    have htimer : s'.pipeline.timer = s.pipeline.timer := congrArg Standing.timer hstanding
    have hlater : ∀ t due, s.pipeline.timer = some t → t.due = .at due →
        now + Platform.resolution ≤ due := fun t due ht hdue =>
      not_lt.1 fun hlt => hfires ((hl.fires_iff ht hdue).2 hlt)
    refine ⟨s', hl.after_round now (by rw [hstate, hs']) (by rw [hstanding, htimer]; rfl) ?_,
      ⟨hresumed, fun t due ht hdue => hl.le_max_due hround hon (htimer ▸ ht) hdue⟩, ?_⟩
    · intro t ht
      exact ⟨htimer ▸ ht, fun due hdue => hlater t due (htimer ▸ ht) hdue⟩
    · rw [hstanding, EventLoop.round, hstarts]
      exact .rested hlater

/-- Two stretches of work are one. -/
lemma Worked.trans {resumed : Instant} {st st' st'' : Standing}
    {starts starts' : List (Instant × Pass)} (h : Worked resumed now st st' starts)
    (h' : Worked resumed limit st' st'' starts') (hle : now ≤ limit) :
    Worked resumed limit st st'' (starts ++ starts') := by
  cases h with
  | rested _ => exact h'
  | fired t due fired pass ht hdue hlt hmeets =>
    have hlt' : due < limit + Platform.resolution := by linarith
    cases h' with
    | fired t' _ _ _ ht' => cases ht'
    | rested _ => exact .fired t due fired pass ht hdue hlt' hmeets

variable (env) in
/-- The loop goes on with its work until an instant. -/
private lemma Waits.run_on (hl : Waits l s d) (hle : l.now ≤ limit) {resumed : Instant}
    (hon : OnTime resumed l s) :
    ∃ s', Waits (EventLoop.run (Host.machine env) limit l).1 s' d ∧
      Worked resumed limit s.pipeline.standing s'.pipeline.standing
        (timerStarts env (EventLoop.doings (Host.machine env) limit l)) := by
  induction l using EventLoop.run_induction (Host.machine env) limit generalizing s with
  | rest l hrest =>
    rw [EventLoop.run_of_rest _ hrest, EventLoop.doings_of_rest _ hrest]
    refine ⟨s, ⟨hl.slots, hl.delay, hl.ready, hl.timers, hl.serials, hl.isOpen, hl.due,
      hl.inOrder⟩, .rested fun t due ht hdue => ?_⟩
    -- no timer is left that is due, so the one that is set is not
    obtain ⟨due', hdue', hmem, -⟩ := hl.due t ht
    obtain rfl : due = due' := Due.at.inj (hdue.symm.trans hdue')
    exact not_lt.1 (of_decide_eq_false
      (EventLoop.not_isDueAt_of_roundTime? hl.inOrder hrest _ hmem))
  | round l now hround ih =>
    rw [EventLoop.run_of_round _ hround, EventLoop.doings_of_round _ hround]
    obtain ⟨s₁, hl₁, hon₁, hworked₁⟩ := hl.round env hround hle hon
    have hnow : now ≤ limit := EventLoop.roundTime?_le_limit hround hle
    obtain ⟨s₂, hl₂, hworked₂⟩ := ih hl₁ hnow hon₁
    refine ⟨s₂, hl₂, ?_⟩
    rw [timerStarts, List.flatMap_append]
    exact hworked₁.trans hworked₂ hnow

variable (env) in
/-- The loop works until an instant. -/
theorem Waits.run (hl : Waits l s d) (hle : l.now ≤ limit) :
    ∃ s', Waits (EventLoop.run (Host.machine env) limit l).1 s' d ∧
      Worked l.now limit s.pipeline.standing s'.pipeline.standing
        (timerStarts env (EventLoop.doings (Host.machine env) limit l)) :=
  hl.run_on env hle ⟨le_refl l.now, fun _ due _ _ => le_max_right due l.now⟩

end Round

end Work

end Debounce

end Mermaid
