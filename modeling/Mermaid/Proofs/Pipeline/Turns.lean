import Mermaid.Proofs.EventLoop.Timing
import Mermaid.Proofs.Pipeline.Notices
import Mermaid.Proofs.Pipeline.Phases
import Mermaid.Proofs.Pipeline.Records

/-!
# Every pass gets its turn

A pass that is started waits for one job, and no other job is about it. So it is still in flight
when the event loop comes to this job, and as no pass is cancelled while the loop works, the
validator is asked about its text.

* `HostJob.turn?` is the pass that a job goes on with, and `Host.Follows` says what jobs do to the
  turns of passes;
* `Host.Numbered` says that all numbers at a slot have been handed out, and `Host.Awaits` that a
  pass has its turn to come;
* `Host.IsInTurn.run` says that a pass which is started while a loop works is one that the validator
  is asked about before the loop rests.
-/

namespace Mermaid

variable {V : Type}

namespace HostJob

/-- The pass that a job goes on with, by slot and number. -/
def turn? : HostJob → Option (Nat × Nat)
  | .begin i n | .follow i n _ _ _ | .wake i n _ => some (i, n)
  | _ => none

/-- Whether a job can be left to a timer. -/
def isDelayed : HostJob → Bool
  | .fire .. | .follow .. => true
  | _ => false

lemma slot_of_turn? {j : HostJob} {i n : Nat} (hturn : j.turn? = some (i, n)) : j.slot = i := by
  cases j <;> cases hturn <;> rfl

/-- Only the turn of a pass ends it. -/
lemma turn?_of_happening? [Platform] {env : Surroundings V} {s : Slot V} {h : Host V}
    {j : HostJob} {n : Nat} {hap : Happening} (hhap : j.happening? env s h = some hap)
    (hend : (∃ v, hap = .finish n v) ∨ hap = .cancel n) : j.turn? = some (j.slot, n) := by
  cases j with
  | begin i m =>
    rw [happening?] at hhap
    split at hhap
    · obtain rfl := Option.some.inj hhap
      rcases hend with ⟨v, hfinish⟩ | hcancel
      · cases hfinish
      · cases hcancel
        rfl
    · obtain ⟨pass, hpass, hverdict⟩ := Option.bind_eq_some_iff.1 hhap
      obtain ⟨v, -, rfl⟩ := Option.map_eq_some_iff.1 hverdict
      rcases hend with ⟨w, hfinish⟩ | hcancel
      · cases hfinish
        rfl
      · cases hcancel
  | follow i m rounds events rest =>
    cases rounds with
    | zero =>
      obtain ⟨v, -, rfl⟩ := Option.map_eq_some_iff.1 hhap
      rcases hend with ⟨w, hfinish⟩ | hcancel
      · cases hfinish
        rfl
      · cases hcancel
    | succ k => cases hhap
  | wake i m v =>
    obtain rfl := Option.some.inj hhap
    split at hend
    · rcases hend with ⟨w, hfinish⟩ | hcancel
      · cases hfinish
      · cases hcancel
        rfl
    · rcases hend with ⟨w, hfinish⟩ | hcancel
      · cases hfinish
        rfl
      · cases hcancel
  | fire i serial =>
    obtain rfl := Option.some.inj hhap
    rcases hend with ⟨w, hfinish⟩ | hcancel
    · cases hfinish
    · cases hcancel
  | flush ticket i text =>
    obtain rfl := Option.some.inj hhap
    rcases hend with ⟨w, hfinish⟩ | hcancel
    · cases hfinish
    · cases hcancel
  | resume ticket i fault => cases hhap
  | deliver ticket i result => cases hhap

end HostJob

/-- A pass in flight stays the one with its number until it ends. -/
lemma Transition.pass?_eq {r : Receivers} {p : Pipeline} {h : Happening} {c : Change}
    (ht : Transition r p h c) {n : Nat} {pass : Pass} (hpass : p.pass? n = some pass)
    (hend : ¬((∃ v, h = .finish n v) ∨ h = .cancel n)) : c.pipeline.pass? n = some pass := by
  rw [not_or, not_exists] at hend
  have hdrop : ∀ m, n ≠ m → (p.drop m).pass? n = some pass := by
    intro m hne
    rw [Pipeline.pass?, Pipeline.drop, List.find?_filter, ← hpass, Pipeline.pass?]
    congr 1
    funext q
    by_cases hq : q.number = n <;> simp [hq, hne]
  have hstart : ∀ new : Pass, (p.inFlight ++ [new]).find? (fun q => q.number = n) = some pass := by
    intro new
    rw [List.find?_append, show p.inFlight.find? _ = some pass from hpass]
    rfl
  cases ht with
  | ignored _ _ _ => exact hpass
  | cleared _ _ _ _ => exact hpass
  | armed _ _ _ _ _ => exact hpass
  | started _ _ _ _ _ => exact hstart _
  | fired _ _ => exact hstart _
  | settled m v _ _ _ _ _ =>
    rw [Pipeline.pass?, (Pipeline.settle_numbers r v (p.drop m)).2.1]
    exact hdrop m fun heq => hend.1 v (by rw [heq])
  | outdated m v _ => exact hdrop m fun heq => hend.1 v (by rw [heq])
  | cancelled m => exact hdrop m fun heq => hend.2 (by rw [heq])
  | tornDown => exact hpass
  | delayed _ => exact hpass

/-- What happens to a pipeline hands out numbers upwards, and a pass that is put in flight has the
highest one. -/
lemma Transition.flying {r : Receivers} {p : Pipeline} {h : Happening} {c : Change}
    (ht : Transition r p h c) : p.issued ≤ c.pipeline.issued ∧
      ∀ pass ∈ c.pipeline.inFlight, pass ∈ p.inFlight ∨ pass.number = c.pipeline.issued := by
  have hissued : p.issued ≤ c.pipeline.issued := by
    cases ht.count with
    | idle hissued => exact Nat.le_of_eq hissued.symm
    | blank hissued => exact hissued ▸ Nat.le_succ _
    | pass _ _ hissued => exact hissued ▸ Nat.le_succ _
    | newest _ _ _ _ hissued => exact Nat.le_of_eq hissued.symm
  refine ⟨hissued, fun pass hpass => ?_⟩
  rcases ht.inFlight_cases with ⟨-, hsub⟩ | ⟨new, -, hstarts⟩
  · exact .inl (hsub.subset hpass)
  · rw [hstarts.flying] at hpass
    rcases List.mem_append.1 hpass with hold | hnew
    · exact .inl hold
    · rw [List.mem_singleton.1 hnew, hstarts.number, hstarts.issued]
      exact .inr rfl

/-- A call that starts a pass raises nothing. -/
lemma Pipeline.raised_of_validateNow {r : Receivers} {caller : Option Nat} {text : Option Text}
    {p : Pipeline} {pass : Pass} (hpass : (p.validateNow r caller text).started = some pass) :
    (p.validateNow r caller text).raised = false := by
  unfold validateNow at hpass ⊢
  split
  · rfl
  · next hopen =>
    rw [if_neg hopen] at hpass
    dsimp only at hpass ⊢
    split
    · next hblank =>
      rw [if_pos hblank] at hpass
      cases hpass
    · rfl

namespace Host

variable {env : Surroundings V} {now : Instant} {i : Nat} {s : Slot V} {h : Host V} {j : HostJob}
  {r : Reaction (Host V) HostJob HostEvent}

/-! ## What jobs do to turns -/

variable (env) in
/-- The pass that something which happens to the pipeline of a slot starts. -/
def started? (s : Slot V) (h : Host V) (hap : Option Happening) : Option Pass :=
  hap.bind fun hap => (s.pipeline.respond (env.receivers h.publications) hap).started

/-- The end of a pass starts none. -/
lemma started?_finish (n : Nat) (v : Option Verdict) :
    started? env s h (v.map (.finish n)) = none := by
  cases v with
  | none => rfl
  | some v =>
    show (s.pipeline.finish (env.receivers h.publications) n v).started = none
    unfold Pipeline.finish
    split
    · rfl
    · dsimp only
      split
      · rfl
      · exact (Pipeline.settle_numbers _ v _).2.2.1

/-- Whether what comes of a job about a slot goes on with the pass that the job went on with, or
begins a pass that the job has put in flight. -/
structure Follows [Platform] (env : Surroundings V) (i : Nat) (s : Slot V) (h : Host V)
    (j : HostJob) (r : Reaction (Host V) HostJob HostEvent) : Prop where
  /-- A validator keeps its answer back only in the turn of the pass. -/
  held : ∀ p ∈ r.state.held, p ∈ h.held ∨ j = .begin p.slot p.pass.number
  timers : ∀ t ∈ r.timers, t.job.isDelayed = true ∧ t.due ≠ .unordered
  begins : ∀ pass, started? env s h (j.happening? env s h) = some pass →
    r.ready = [.begin i pass.number] ∧ r.timers = []
  goesOn : started? env s h (j.happening? env s h) = none →
    ∀ j' ∈ r.jobs, ∀ turn, j'.turn? = some turn → j.turn? = some turn

private lemma turn?_of_mem_resumeCaller {fault : Option WaitFault} {pass : Option Pass} :
    ∀ j' ∈ resumeCaller i fault pass, j'.turn? = none := by
  intro j' hj'
  obtain ⟨ticket, -, rfl⟩ := Option.map_eq_some_iff.1 (Option.mem_toList.1 hj')
  rfl

variable [Platform]

/-- What comes of the turn of a pass that puts none in flight. -/
private lemma Follows.of_turn {hap : Option Happening} (hhap : j.happening? env s h = hap)
    (hnone : started? env s h hap = none)
    (hheld : ∀ p ∈ r.state.held, p ∈ h.held ∨ j = .begin p.slot p.pass.number)
    (htimers : ∀ t ∈ r.timers, t.job.isDelayed = true ∧ t.due ≠ .unordered)
    (hjobs : ∀ j' ∈ r.jobs, ∀ turn, j'.turn? = some turn → j.turn? = some turn) :
    Follows env i s h j r where
  held := hheld
  timers := htimers
  begins := by
    intro pass hpass
    rw [hhap, hnone] at hpass
    cases hpass
  goesOn := fun _ => hjobs

/-- Going on with the run of a command goes on with its pass. -/
private lemma follows_goOn {n : Nat} (hturn : j.turn? = some (i, n)) (events : List RunEvent)
    {rest : Course} (hhap : j.happening? env s h = rest.verdict?.map (.finish n)) :
    Follows env i s h j (goOn env now i n events rest s h) := by
  refine .of_turn hhap (started?_finish n _) ?_ ?_ ?_
  · match rest with
    | .done v => exact fun p => .inl
    | .stuck => exact fun p => .inl
    | .next (.rounds k) later rest => exact fun p => .inl
    | .next (.seconds d k) later rest => exact fun p => .inl
  · match rest with
    | .done v => exact nofun
    | .stuck => exact nofun
    | .next (.rounds k) later rest => exact nofun
    | .next (.seconds d k) later rest => exact List.forall_mem_singleton.2 ⟨rfl, nofun⟩
  · intro j' hj' turn hturn'
    match rest with
    | .done v =>
      rw [Reaction.jobs, goOn, finish] at hj'
      rw [turn?_of_mem_resumeCaller j' (by simpa using hj')] at hturn'
      cases hturn'
    | .stuck => cases hj'
    | .next (.rounds k) later rest =>
      obtain rfl := List.mem_singleton.1 hj'
      exact hturn.trans hturn'
    | .next (.seconds d k) later rest =>
      obtain rfl := List.mem_singleton.1 hj'
      exact hturn.trans hturn'

private lemma follows_finish {n : Nat} {v : Verdict}
    (hhap : j.happening? env s h = some (.finish n v)) :
    Follows env i s h j (finish env i n v s h) := by
  refine .of_turn hhap (started?_finish n (some v)) (fun p => .inl) nofun ?_
  intro j' hj' turn hturn
  rw [Reaction.jobs, finish] at hj'
  rw [turn?_of_mem_resumeCaller j' (by simpa using hj')] at hturn
  cases hturn

private lemma follows_abandon {n : Nat} (hhap : j.happening? env s h = some (.cancel n)) :
    Follows env i s h j (abandon i n s h) := by
  refine .of_turn hhap rfl (fun p => .inl) nofun ?_
  intro j' hj' turn hturn
  rw [Reaction.jobs, abandon] at hj'
  rw [turn?_of_mem_resumeCaller j' (by simpa using hj')] at hturn
  cases hturn

/-- Asking the validator goes on with the pass, or ends it. -/
private lemma follows_consultFor {pass : Pass} (hj : j = .begin i pass.number)
    (hhap : j.happening? env s h =
      ((env.consult s.validator pass.text).verdict? pass.text).map (.finish pass.number)) :
    Follows env i s h j (consultFor env now i pass s h) := by
  unfold consultFor
  cases hc : env.consult s.validator pass.text with
  | answers v =>
    rw [hc] at hhap
    obtain ⟨hheld, htimers, hbegins, hgoesOn⟩ := follows_finish (i := i) hhap
    exact ⟨hheld, htimers, hbegins, hgoesOn⟩
  | holds v =>
    refine .of_turn hhap (started?_finish pass.number _) (fun p hp => ?_) nofun nofun
    rcases List.mem_append.1 hp with hold | hnew
    · exact .inl hold
    · obtain rfl := List.mem_singleton.1 hnew
      exact .inr hj
  | runs c p =>
    rw [hc] at hhap
    have hturn : j.turn? = some (i, pass.number) := by rw [hj]; rfl
    obtain ⟨hheld, htimers, hbegins, hgoesOn⟩ := follows_goOn hturn
      (c.start p pass.text.raw).1 hhap
    exact ⟨hheld, htimers, hbegins, hgoesOn⟩

/-- What a change of a pipeline starts is begun. -/
private lemma follows_changed {c : Change}
    (hstarted : started? env s h (j.happening? env s h) = c.started) :
    Follows env i s h j (changed i s c h) where
  held := fun p => .inl
  timers := nofun
  begins := by
    intro pass hpass
    rw [hstarted] at hpass
    rw [changed, hpass]
    exact ⟨rfl, rfl⟩
  goesOn := by
    intro hnone j' hj'
    rw [hstarted] at hnone
    rw [Reaction.jobs, changed, hnone] at hj'
    cases hj'

/-- A call for a caller begins the pass that it starts, or answers the caller. -/
private lemma follows_flush {ticket : Nat} {text : Option Text} :
    Follows env i s h (.flush ticket i text) (flush env ticket i text s h) := by
  have hstarted : started? env s h ((HostJob.flush ticket i text).happening? env s h) =
      (s.pipeline.validateNow (env.receivers h.publications) (some ticket) text).started := rfl
  obtain ⟨hheld, htimers, hbegins, -⟩ := follows_changed (i := i) hstarted
  unfold flush
  dsimp only
  split
  · next hraised =>
    refine ⟨hheld, htimers, fun pass hpass => ?_, fun _ j' hj' turn hturn => ?_⟩
    · rw [Pipeline.raised_of_validateNow (hstarted ▸ hpass)] at hraised
      cases hraised
    · obtain rfl := List.mem_singleton.1 hj'
      cases hturn
  · split
    · exact follows_changed hstarted
    · next hnone =>
      refine ⟨hheld, htimers, fun pass hpass => ?_, fun _ j' hj' turn hturn => ?_⟩
      · rw [hstarted] at hpass
        rw [hpass] at hnone
        exact absurd rfl hnone
      · obtain rfl := List.mem_singleton.1 hj'
        cases hturn

variable (env now) in
/-- Jobs go on with passes as they should. -/
lemma follows_handleAt (hj : i = j.slot) :
    Follows env i s h j (handleAt env now i s h j) := by
  have hquiet : ∀ {r : Reaction (Host V) HostJob HostEvent}, j.happening? env s h = none →
      r.state.held = h.held → (∀ j' ∈ r.jobs, j'.turn? = none) → r.timers = [] →
      Follows env i s h j r := by
    intro r hhap hheld hjobs htimers
    refine .of_turn hhap rfl (fun p hp => .inl (hheld ▸ hp)) ?_ ?_
    · rw [htimers]
      exact List.forall_mem_nil _
    intro j' hj' turn hturn
    rw [hjobs j' hj'] at hturn
    cases hturn
  cases j with
  | fire i' serial => exact follows_changed rfl
  | begin i' n =>
    obtain rfl : i = i' := hj
    rw [handleAt]
    split
    · next hcancelled => exact follows_abandon (by rw [HostJob.happening?, if_pos hcancelled])
    · next hcancelled =>
      cases hpass : s.pipeline.pass? n with
      | none =>
        refine hquiet ?_ rfl (List.forall_mem_nil _) rfl
        rw [HostJob.happening?, if_neg hcancelled, hpass]
        rfl
      | some pass =>
        obtain ⟨-, rfl⟩ := Pipeline.mem_of_pass?_eq_some hpass
        refine follows_consultFor rfl ?_
        rw [HostJob.happening?, if_neg hcancelled, hpass]
        rfl
  | follow i' n rounds events rest =>
    obtain rfl : i = i' := hj
    cases rounds with
    | zero => exact follows_goOn rfl events rfl
    | succ k =>
      refine .of_turn rfl rfl (fun p => .inl) (List.forall_mem_nil _) fun j' hj' turn hturn => ?_
      obtain rfl := List.mem_singleton.1 hj'
      exact hturn
  | wake i' n v =>
    obtain rfl : i = i' := hj
    rw [handleAt]
    split
    · next hcancelled => exact follows_abandon (by rw [HostJob.happening?, if_pos hcancelled])
    · next hcancelled => exact follows_finish (by rw [HostJob.happening?, if_neg hcancelled])
  | flush ticket i' text =>
    obtain rfl : i = i' := hj
    exact follows_flush
  | resume ticket i' fault => exact hquiet rfl rfl (List.forall_mem_singleton.2 rfl) rfl
  | deliver ticket i' result => exact hquiet rfl rfl (List.forall_mem_nil _) rfl

/-! ## Steps of a slot -/

variable (env now) in
/-- What a job does to the pipeline of a slot, as far as its passes go: one is put in flight and
waits for its turn, or none is, and no other pass gets a turn than the one that the job goes on
with. -/
inductive Step (i : Nat) (h : Host V) (j : HostJob) (p p' : Pipeline) : Prop
  | starts (pass : Pass) : p.Starts p' pass →
      (handle env now j h).jobs = [.begin i pass.number] → Step i h j p p'
  | goesOn : p'.inFlight.Sublist p.inFlight → p.issued ≤ p'.issued →
      (∀ j' ∈ (handle env now j h).jobs, ∀ n, j'.turn? = some (i, n) → j.turn? = some (i, n)) →
      Step i h j p p'

/-- A job about a slot takes a step there, and ends no pass but the one that it goes on with. -/
private lemma step_handleAt (hs : h.slots[j.slot]? = some s) :
    Step env now j.slot h j s.pipeline
        (s.pipeline.after (env.receivers h.publications) (j.happening? env s h)) ∧
      ∀ n pass, s.pipeline.pass? n = some pass → j.turn? ≠ some (j.slot, n) →
        (s.pipeline.after (env.receivers h.publications) (j.happening? env s h)).pass? n =
          some pass := by
  have hhandle : handle env now j h = handleAt env now j.slot s h j := by rw [handle, hs]
  obtain ⟨-, -, hbegins, hgoesOn⟩ := follows_handleAt env now (s := s) (h := h) (j := j) rfl
  rw [← hhandle] at hbegins hgoesOn
  have hrest : ∀ p', p'.inFlight.Sublist s.pipeline.inFlight → s.pipeline.issued ≤ p'.issued →
      started? env s h (j.happening? env s h) = none → Step env now j.slot h j s.pipeline p' :=
    fun p' hsub hle hnone => .goesOn hsub hle fun j' hj' n => hgoesOn hnone j' hj' (j.slot, n)
  cases hhap : j.happening? env s h with
  | none =>
    rw [hhap] at hrest
    exact ⟨hrest _ (List.Sublist.refl _) (Nat.le_refl _) rfl, fun n pass hpass _ => hpass⟩
  | some hap =>
    rw [hhap] at hrest hbegins
    rw [Pipeline.after_some]
    cases hpossible : hap.isPossible s.pipeline with
    | false =>
      have hsame : s.pipeline.respond (env.receivers h.publications) hap = _ :=
        Pipeline.respond_of_impossible hpossible
      rw [started?, Option.bind_some, hsame] at hrest
      rw [hsame]
      exact ⟨hrest _ (List.Sublist.refl _) (Nat.le_refl _) rfl, fun n pass hpass _ => hpass⟩
    | true =>
      have ht := Pipeline.respond_transition (env.receivers h.publications) _ hap hpossible
      refine ⟨?_, fun n pass hpass hturn => ht.pass?_eq hpass fun hend => ?_⟩
      · rcases ht.inFlight_cases with ⟨hnone, hsub⟩ | ⟨pass, hpass, hstarts⟩
        · exact hrest _ hsub ht.flying.1 hnone
        · obtain ⟨hready, htimers⟩ := hbegins pass hpass
          exact .starts pass hstarts (by rw [Reaction.jobs, hready, htimers]; rfl)
      · exact hturn (HostJob.turn?_of_happening? hhap hend)

/-- All jobs that come of a job are about its slot. -/
private lemma slot_of_mem_handle {j' : HostJob} (hj' : j' ∈ (handle env now j h).jobs) :
    j'.slot = j.slot := by
  unfold handle at hj'
  split at hj'
  · cases hj'
  · exact (successor_of_mem rfl j' hj').slot_eq

variable (env now) in
/-- Every job takes a step at every slot, and ends no pass there but the one that it goes on
with. -/
lemma step_handle (j : HostJob) {p : Pipeline} (hp : h.pipelineAt i = some p) :
    ∃ p', (handle env now j h).state.pipelineAt i = some p' ∧ Step env now i h j p p' ∧
      ∀ n pass, p.pass? n = some pass → j.turn? ≠ some (i, n) → p'.pass? n = some pass := by
  obtain ⟨s, hs, rfl⟩ := Option.map_eq_some_iff.1 hp
  rw [pipelineAt_handle, hp, madeBy]
  refine ⟨_, rfl, ?_⟩
  by_cases hslot : j.slot = i
  · subst hslot
    rw [hs, Option.bind_some, happensAt_map, if_pos rfl]
    exact step_handleAt hs
  · rw [happensAt_map, if_neg hslot]
    refine ⟨.goesOn (List.Sublist.refl _) (Nat.le_refl _) fun j' hj' n hturn => ?_,
      fun n pass hpass _ => hpass⟩
    exact absurd ((slot_of_mem_handle hj').symm.trans (HostJob.slot_of_turn? hturn)) hslot

/-! ## Numbers that have been handed out -/

/-- Whether all numbers at a slot have been handed out by its pipeline. -/
structure Numbered (i : Nat) (p : Pipeline) (h : Host V) (jobs : List HostJob) : Prop where
  jobs : ∀ j ∈ jobs, ∀ n, j.turn? = some (i, n) → n ≤ p.issued
  held : ∀ q ∈ h.held, q.slot = i → q.pass.number ≤ p.issued
  cancelled : ∀ n, (i, n) ∈ h.cancelled → n ≤ p.issued
  flying : ∀ pass ∈ p.inFlight, pass.number ≤ p.issued

/-- Whether a pass at a slot has its turn to come. -/
structure Awaits (i : Nat) (pass : Pass) (p : Pipeline) (h : Host V) (jobs : List HostJob) :
    Prop where
  flying : p.pass? pass.number = some pass
  uncancelled : (i, pass.number) ∉ h.cancelled
  turn : ∃ rest, jobs.Perm (.begin i pass.number :: rest) ∧
    ∀ j ∈ rest, j.turn? ≠ some (i, pass.number)

section Jobs

variable {p p' : Pipeline} {pass : Pass} {jobs rest : List HostJob}

/-- A pass that keeps its validator waiting is one whose turn it is. -/
private lemma mem_held_handle : ∀ q ∈ (handle env now j h).state.held,
    q ∈ h.held ∨ j = .begin q.slot q.pass.number := by
  unfold handle
  split
  · exact fun q => .inl
  · exact (follows_handleAt env now rfl).held

/-- What is left to a timer goes on with the run of a command, at a time that stands in order. -/
private lemma timers_handle : ∀ t ∈ (handle env now j h).timers,
    t.job.isDelayed = true ∧ t.due ≠ .unordered := by
  unfold handle
  split
  · exact nofun
  · exact (follows_handleAt env now rfl).timers

/-- Jobs keep to the numbers that have been handed out. -/
lemma Numbered.handle (hn : Numbered i p h jobs) (hjobs : jobs.Perm (j :: rest))
    (hstep : Step env now i h j p p') :
    Numbered i p' (handle env now j h).state (rest ++ (handle env now j h).jobs) := by
  have hj : ∀ n, j.turn? = some (i, n) → n ≤ p.issued :=
    hn.jobs j (hjobs.mem_iff.2 List.mem_cons_self)
  have hle : p.issued ≤ p'.issued := by
    cases hstep with
    | starts pass hstarts => exact hstarts.issued ▸ Nat.le_succ _
    | goesOn _ hle => exact hle
  refine ⟨fun j' hj' n hturn => ?_, fun q hq hslot => ?_, fun n hcancelled => ?_,
    fun pass hpass => ?_⟩
  · rcases List.mem_append.1 hj' with hold | hnew
    · exact (hn.jobs j' (hjobs.mem_iff.2 (List.mem_cons_of_mem j hold)) n hturn).trans hle
    · cases hstep with
      | starts pass hstarts hbegin =>
        rw [hbegin, List.mem_singleton] at hnew
        rw [hnew] at hturn
        cases hturn
        rw [hstarts.number, hstarts.issued]
      | goesOn _ _ hsame => exact (hj n (hsame j' hnew n hturn)).trans hle
  · rcases mem_held_handle q hq with hold | rfl
    · exact (hn.held q hold hslot).trans hle
    · exact (hj q.pass.number (by rw [← hslot]; rfl)).trans hle
  · rw [cancelled_handle] at hcancelled
    exact (hn.cancelled n hcancelled).trans hle
  · cases hstep with
    | starts new hstarts =>
      rw [hstarts.flying] at hpass
      rcases List.mem_append.1 hpass with hold | hnew
      · exact (hn.flying pass hold).trans hle
      · rw [List.mem_singleton.1 hnew, hstarts.number, hstarts.issued]
    | goesOn hsub => exact (hn.flying pass (hsub.subset hpass)).trans hle

/-- A pass that is put in flight waits for its turn. -/
lemma Numbered.awaits (hn : Numbered i p h jobs) (hjobs : jobs.Perm (j :: rest))
    (hstarts : p.Starts p' pass)
    (hbegin : (Host.handle env now j h).jobs = [.begin i pass.number]) :
    Awaits i pass p' (Host.handle env now j h).state (rest ++ (Host.handle env now j h).jobs) where
  flying := by
    -- no pass in flight before has the new number
    have hnone : p.inFlight.find? (fun q => q.number = pass.number) = none := by
      rw [List.find?_eq_none]
      intro q hq hnumber
      have hle := hn.flying q hq
      rw [of_decide_eq_true hnumber, hstarts.number] at hle
      omega
    rw [Pipeline.pass?, hstarts.flying, List.find?_append, hnone]
    simp
  uncancelled := by
    rw [cancelled_handle]
    intro hcancelled
    have hle := hn.cancelled _ hcancelled
    rw [hstarts.number] at hle
    omega
  turn := by
    refine ⟨rest, hbegin ▸ List.perm_append_comm, fun j' hj' hturn => ?_⟩
    have hle := hn.jobs j' (hjobs.mem_iff.2 (List.mem_cons_of_mem j hj')) _ hturn
    rw [hstarts.number] at hle
    omega

/-- A pass waits for its turn while other jobs are done. -/
lemma Awaits.handle (ha : Awaits i pass p h jobs) (hn : Numbered i p h jobs)
    (hjobs : jobs.Perm (j :: rest)) (hstep : Step env now i h j p p')
    (hkeeps : ∀ n pass, p.pass? n = some pass → j.turn? ≠ some (i, n) → p'.pass? n = some pass)
    (hj : j ≠ .begin i pass.number) :
    Awaits i pass p' (Host.handle env now j h).state
      (rest ++ (Host.handle env now j h).jobs) := by
  obtain ⟨others, hothers, hturns⟩ := ha.turn
  have hmem : .begin i pass.number ∈ rest := by
    have hmem := (hothers.symm.trans hjobs).mem_iff.1 List.mem_cons_self
    exact (List.mem_cons.1 hmem).resolve_left hj.symm
  obtain ⟨front, back, rfl⟩ := List.append_of_mem hmem
  have hsame : (j :: (front ++ back)).Perm others :=
    ((List.Perm.swap j (.begin i pass.number) _).trans
      ((List.perm_middle.symm.cons j).trans (hjobs.symm.trans hothers))).cons_inv
  have hturn : j.turn? ≠ some (i, pass.number) := hturns j (hsame.mem_iff.1 List.mem_cons_self)
  refine ⟨hkeeps _ _ ha.flying hturn, by rw [cancelled_handle]; exact ha.uncancelled,
    front ++ back ++ (Host.handle env now j h).jobs, ?_, fun j' hj' hturn' => ?_⟩
  · exact List.perm_middle.append_right _
  · rcases List.mem_append.1 hj' with hold | hnew
    · exact hturns j' (hsame.mem_iff.1 (List.mem_cons_of_mem j hold)) hturn'
    · cases hstep with
      | starts new hstarts hbegin =>
        -- the number of a pass in flight is not the next one
        have hle := hn.flying pass (Pipeline.mem_of_pass?_eq_some ha.flying).1
        rw [hbegin, List.mem_singleton] at hnew
        rw [hnew, HostJob.turn?, Option.some.injEq, Prod.mk.injEq] at hturn'
        have hnumber := hstarts.number
        omega
      | goesOn _ _ hsame => exact hturn (hsame j' hnew _ hturn')

/-- In its turn a pass has its text put to the validator. -/
lemma Awaits.consulted (ha : Awaits i pass p h jobs) (hp : h.pipelineAt i = some p) :
    .consulted pass.text ∈ (Host.handle env now (.begin i pass.number) h).events := by
  obtain ⟨s, hs, rfl⟩ := Option.map_eq_some_iff.1 hp
  have huncancelled : h.isCancelled i pass.number = false := by
    rw [isCancelled, Bool.eq_false_iff]
    exact fun hmem => ha.uncancelled (List.contains_iff_mem.1 hmem)
  rw [Host.handle, HostJob.slot, hs]
  show _ ∈ (handleAt env now i s h (.begin i pass.number)).events
  rw [handleAt, huncancelled, if_neg Bool.false_ne_true, ha.flying]
  exact List.mem_cons_self

end Jobs

/-! ## What a loop does -/

variable (env) in
lemma isTimely_machine : (machine env).IsTimely := fun _ _ _ t ht => (timers_handle t ht).2

/-- The passes in flight at a slot. -/
def flyingAt (i : Nat) (h : Host V) : List Pass :=
  ((h.pipelineAt i).map Pipeline.inFlight).getD []

variable (env) in
/-- The passes that a job puts in flight at a slot, behind those that are there. -/
def putInFlight (i : Nat) (d : Doing (Host V) HostJob) : List Pass :=
  ((Host.handle env d.now d.job d.before).state.flyingAt i).drop (d.before.flyingAt i).length

variable (env) in
/-- Whether a validator is asked about the text of a pass, in the turn of the pass. -/
def Consults (i : Nat) (pass : Pass) (ds : List (Doing (Host V) HostJob)) : Prop :=
  ∃ d ∈ ds, d.job = .begin i pass.number ∧ .consulted pass.text ∈ d.events (machine env)

variable (env) in
/-- The scenes in which the validator has been asked about all passes that were put in flight, if
their turn is not still to come. -/
def TakesTurns (i : Nat) (sc : Scene (Host V) HostJob (Doing (Host V) HostJob)) : Prop :=
  ∃ p, sc.state.pipelineAt i = some p ∧ Numbered i p sc.state sc.jobs ∧
    ∀ d ∈ sc.events, ∀ pass ∈ putInFlight env i d,
      Awaits i pass p sc.state sc.jobs ∨ Consults env i pass sc.events

/-- A pass that is put in flight is the one that the step of the job starts. -/
lemma Step.of_mem_putInFlight {p p' : Pipeline} (hstep : Step env now i h j p p')
    (hp : h.pipelineAt i = some p) (hp' : (Host.handle env now j h).state.pipelineAt i = some p')
    {pass : Pass} (hpass : pass ∈ putInFlight env i ⟨now, j, h⟩) :
    p.Starts p' pass ∧ (Host.handle env now j h).jobs = [.begin i pass.number] := by
  rw [putInFlight, flyingAt, flyingAt, hp, hp'] at hpass
  cases hstep with
  | starts new hstarts hbegin =>
    simp only [Option.map_some, Option.getD_some, hstarts.flying, List.drop_left,
      List.mem_singleton] at hpass
    exact hpass ▸ ⟨hstarts, hbegin⟩
  | goesOn hsub =>
    rw [Option.map_some, Option.getD_some, Option.map_some, Option.getD_some,
      List.drop_of_length_le hsub.length_le] at hpass
    cases hpass

/-- The jobs of a host take turns. -/
lemma staysIn_takesTurns (i : Nat) : (machine env).traced.StaysIn (TakesTurns env i) := by
  intro now sc j rest ⟨p, hp, hn, hbegun⟩ hjobs
  obtain ⟨p', hp', hstep, hkeeps⟩ := step_handle env now j hp
  have hscene : (Scene.after ((machine env).traced.handle now j sc.state) rest sc.events).jobs =
      rest ++ (Host.handle env now j sc.state).jobs := List.append_assoc ..
  refine ⟨p', hp', hscene ▸ hn.handle hjobs hstep, fun d hd pass hpass => ?_⟩
  rw [hscene]
  have hstill : Consults env i pass sc.events →
      Consults env i pass (sc.events ++ [⟨now, j, sc.state⟩]) :=
    fun ⟨d, hd, hconsulted⟩ => ⟨d, List.mem_append_left _ hd, hconsulted⟩
  rcases List.mem_append.1 hd with hold | hnew
  · rcases hbegun d hold pass hpass with hawaits | hconsulted
    · by_cases hj : j = .begin i pass.number
      · subst hj
        exact .inr ⟨_, List.mem_append_right _ (List.mem_singleton_self _), rfl,
          hawaits.consulted hp⟩
      · exact .inl (hawaits.handle hn hjobs hstep hkeeps hj)
    · exact .inr (hstill hconsulted)
  · obtain rfl := List.mem_singleton.1 hnew
    obtain ⟨hstarts, hbegin⟩ := hstep.of_mem_putInFlight hp hp' hpass
    exact .inl (hn.awaits hjobs hstarts hbegin)

/-- Whether the passes of a loop get their turns: all numbers have been handed out, and what is left
to timers begins no pass. -/
structure IsInTurn (i : Nat) (l : EventLoop (Host V) HostJob) : Prop where
  numbered : ∃ p, l.state.pipelineAt i = some p ∧ Numbered i p l.state l.jobs
  delayed : ∀ t ∈ l.timers, t.job.isDelayed = true

variable (env) in
/-- **Every pass gets its turn.** A pass that is put in flight while a loop works is one that the
validator is asked about before the loop rests. -/
theorem IsInTurn.run {l : EventLoop (Host V) HostJob} (hl : IsInTurn i l) (limit : Instant) :
    IsInTurn i (EventLoop.run (machine env) limit l).1 ∧
      ∀ d ∈ EventLoop.doings (machine env) limit l, ∀ pass ∈ putInFlight env i d,
        Consults env i pass (EventLoop.doings (machine env) limit l) := by
  have hscene : TakesTurns env i { state := l.state, jobs := l.jobs, events := [] } := by
    obtain ⟨p, hp, hn⟩ := hl.numbered
    exact ⟨p, hp, hn, nofun⟩
  obtain ⟨sc, ⟨p, hp, hn, hbegun⟩, hshown, hevents⟩ :=
    (staysIn_takesTurns i).run limit l hscene ⟨rfl, .refl _⟩
  rw [(EventLoop.run_traced (machine env) limit l).1] at hshown
  have hdelayed : ∀ t ∈ (EventLoop.run (machine env) limit l).1.timers, t.job.isDelayed = true :=
    EventLoop.forall_timers_run (P := fun j : HostJob => j.isDelayed = true)
      (fun now j h t ht => (timers_handle t ht).1) limit hl.delayed
  rw [List.nil_append] at hevents
  refine ⟨⟨⟨p, hshown.state ▸ hp, ?_⟩, hdelayed⟩, fun d hd pass hpass => ?_⟩
  · rw [← hshown.state]
    exact ⟨fun j hj => hn.jobs j (hshown.jobs.mem_iff.2 hj), hn.held, hn.cancelled, hn.flying⟩
  · rw [EventLoop.doings, ← hevents]
    rw [EventLoop.doings, ← hevents] at hd
    refine (hbegun d hd pass hpass).resolve_left fun hawaits => ?_
    -- the turn would be left to a timer
    obtain ⟨others, hothers, -⟩ := hawaits.turn
    have hmem := (hothers.symm.trans hshown.jobs).mem_iff.1 List.mem_cons_self
    rw [EventLoop.jobs, EventLoop.ready_run, List.nil_append] at hmem
    obtain ⟨t, ht, hjob⟩ := List.mem_map.1 hmem
    have hleft := hdelayed t ht
    rw [hjob] at hleft
    cases hleft

/-! ## What calls do to turns -/

omit [Platform] in
/-- A call that changes a pipeline keeps to the numbers that have been handed out. -/
lemma Numbered.changed {rec : Receivers} {p : Pipeline} {hap : Happening} {c : Change}
    {jobs : List HostJob} (hn : Numbered i p h jobs) (ht : Transition rec p hap c) :
    Numbered i c.pipeline (changed i s c h).state (jobs ++ (changed i s c h).ready) := by
  have hle := ht.flying.1
  refine ⟨fun j hj n hturn => ?_, fun q hq hslot => (hn.held q hq hslot).trans hle,
    fun n hcancelled => (hn.cancelled n hcancelled).trans hle, fun pass hpass => ?_⟩
  · rcases List.mem_append.1 hj with hold | hnew
    · exact (hn.jobs j hold n hturn).trans hle
    · obtain ⟨pass, hpass, rfl⟩ := Option.map_eq_some_iff.1 (Option.mem_toList.1 hnew)
      cases hturn
      rcases ht.inFlight_cases with ⟨hnone, -⟩ | ⟨new, hstarted, hstarts⟩
      · cases hnone.symm.trans hpass
      · obtain rfl := Option.some.inj (hstarted.symm.trans hpass)
        rw [hstarts.number, hstarts.issued]
  · rcases ht.flying.2 pass hpass with hold | hnew
    · exact (hn.flying pass hold).trans hle
    · exact hnew.le

omit [Platform] in
/-- The jobs that wake passes go on with passes that have been held. -/
lemma Numbered.wakeUp {p : Pipeline} {jobs : List HostJob} (hn : Numbered i p h jobs) {h' : Host V}
    {held : List HeldPass} (hheld : held ⊆ h.held) (hkept : h'.held ⊆ h.held)
    (hcancelled : ∀ n, (i, n) ∈ h'.cancelled → n ≤ p.issued) :
    Numbered i p h' (jobs ++ wakeAll held) := by
  refine ⟨fun j hj n hturn => ?_, fun q hq => hn.held q (hkept hq), hcancelled, hn.flying⟩
  rcases List.mem_append.1 hj with hold | hnew
  · exact hn.jobs j hold n hturn
  · obtain ⟨q, hq, rfl⟩ := List.mem_map.1 hnew
    cases hturn
    exact hn.held q (hheld hq) rfl

omit [Platform] in
lemma pipelineAt_changed (hs : h.slots[i]? = some s) (c : Change) :
    (changed i s c h).state.pipelineAt i = some c.pipeline := by
  have hlt : i < h.slots.length := (List.getElem?_eq_some_iff.1 hs).1
  show ((h.slots.set i _)[i]?).map _ = _
  rw [List.getElem?_set_self hlt]
  rfl

omit [Platform] in
lemma pipelineAt_modifySlot (hs : h.slots[i]? = some s) (f : Slot V → Slot V) :
    (h.modifySlot i f).pipelineAt i = some (f s).pipeline := by
  rw [pipelineAt, modifySlot, List.getElem?_modify, hs]
  simp

omit [Platform] in
/-- Passes get their turns after a call that keeps to the numbers. -/
lemma IsInTurn.absorb {l : EventLoop (Host V) HostJob} (hl : IsInTurn i l)
    (hnumbered : ∃ p, r.state.pipelineAt i = some p ∧ Numbered i p r.state (l.jobs ++ r.jobs))
    (hdelayed : ∀ t ∈ r.timers, t.job.isDelayed = true) :
    IsInTurn i (EventLoop.absorb r l).1 := by
  obtain ⟨p, hp, hn⟩ := hnumbered
  refine ⟨⟨p, hp, fun j hj => hn.jobs j ?_, hn.held, hn.cancelled, hn.flying⟩, fun t ht => ?_⟩
  · simp only [EventLoop.jobs, EventLoop.absorb, Reaction.jobs, List.mem_append, List.mem_map,
      EventLoop.mem_addTimers] at hj ⊢
    rcases hj with (hold | hnew) | ⟨t, hnew | hold, rfl⟩
    · exact .inl (.inl hold)
    · exact .inr (.inl hnew)
    · exact .inr (.inr ⟨t, hnew, rfl⟩)
    · exact .inl (.inr ⟨t, hold, rfl⟩)
  · rcases EventLoop.mem_addTimers.1 ht with hnew | hold
    · exact hdelayed t hnew
    · exact hl.delayed t hold

omit [Platform] in
lemma IsInTurn.absorb_of_timers_eq_nil {l : EventLoop (Host V) HostJob} (hl : IsInTurn i l)
    {p : Pipeline} (htimers : r.timers = []) (hp : r.state.pipelineAt i = some p)
    (hn : Numbered i p r.state (l.jobs ++ r.ready)) : IsInTurn i (EventLoop.absorb r l).1 := by
  have hjobs : r.jobs = r.ready := by
    rw [Reaction.jobs, htimers, List.map_nil, List.append_nil]
  refine hl.absorb ⟨p, hp, hjobs ▸ hn⟩ ?_
  rw [htimers]
  exact List.forall_mem_nil _

omit [Platform] in
lemma timers_flush {ticket : Nat} {text : Option Text} :
    (flush env ticket i text s h).timers = [] := by
  unfold flush
  dsimp only
  split
  · rfl
  · split <;> rfl

end Host

end Mermaid
