import Mathlib.Data.List.Forall2
import Mermaid.Proofs.Pipeline.Calls

/-!
# Debouncing

A text that a pipeline is updated with waits for the delay that is in force then. If nobody calls
the pipeline before the event loop gets to the timer, the timer starts a pass over just this text
when it falls due, or when the loop goes on if it is held up then. Timers start no other passes.

* `Debounce.expected` says which passes timers are to start;
* `Debounce.upcoming` says which are still to come when the pipeline stands in some way, and
  `Debounce.Waits.starts_upcoming` that timers start these;
* `Debounce.starts_exactly` says that timers start just the passes that they are to start, and that
  the validator is asked about each of them.
-/

namespace Mermaid

namespace Debounce

section Starts

variable {V : Type} [Platform] {env : Surroundings V} {s : Slot V}

/-! ## What timers are to start -/

/-- Since when the loop goes on that gets to a timer, when some things are done from an instant on:
a call before that calls the timer off. -/
def goesOff? (due : Instant) : Instant → List (Act V) → Option Instant
  | _, [] => none
  | now, .call c :: acts => if c.callsOff then none else goesOff? due now acts
  | now, .wait seconds :: acts =>
    if due < now + seconds + Platform.resolution then some now
    else goesOff? due (now + seconds) acts
  | now, .holdUp seconds :: acts => goesOff? due (now + seconds) acts

/-- The pass that a timer is to start over a text. -/
def expectedOf (due : Instant) (text : Text) (now : Instant) (acts : List (Act V)) :
    List Expected :=
  ((goesOff? due now acts).map fun resumed => ⟨due, resumed, text⟩).toList

/-- The passes that timers are to start, when some things are done from an instant on, and a delay
is in force then: one for each text that is not blank, unless its timer is called off. -/
def expected (delay : Rat) : Instant → List (Act V) → List Expected
  | _, [] => []
  | now, .wait seconds :: acts => expected delay (now + seconds) acts
  | now, .holdUp seconds :: acts => expected delay (now + seconds) acts
  | now, .call (.update text) :: acts =>
    (if Text.isBlankText text then [] else expectedOf (now + delay) text now acts) ++
      expected delay now acts
  | now, .call (.equip _ d) :: acts => expected d.seconds now acts
  | _, .call .teardown :: _ => []
  | now, .call _ :: acts => expected delay now acts

/-! ## Timers start what they are to start -/

/-- The pass that is expected of the timer that is set, when some things are done from an instant
on. -/
def pending (now : Instant) (acts : List (Act V)) (st : Standing) : List Expected :=
  match st.timer with
  | some ⟨_, .at due⟩ => expectedOf due st.text now acts
  | _ => []

/-- All passes that are expected from an instant on. -/
def upcoming (now : Instant) (acts : List (Act V)) (d : Delay) (st : Standing) : List Expected :=
  pending now acts st ++ if st.isClosed then [] else expected d.seconds now acts

lemma upcoming_nil (now : Instant) (d : Delay) (st : Standing) :
    upcoming now ([] : List (Act V)) d st = [] := by
  have hpending : pending now ([] : List (Act V)) st = [] := by
    unfold pending
    split <;> rfl
  rw [upcoming, hpending]
  split <;> rfl

lemma upcoming_of_isClosed (now : Instant) (acts : List (Act V)) (d : Delay) {st : Standing}
    (hclosed : st.isClosed = true) (htimer : st.timer = none) : upcoming now acts d st = [] := by
  rw [upcoming, pending, htimer, hclosed, if_pos rfl]
  rfl

lemma upcoming_of_isOpen (now : Instant) (acts : List (Act V)) (d : Delay) {st : Standing}
    (hopen : st.isClosed = false) :
    upcoming now acts d st = pending now acts st ++ expected d.seconds now acts := by
  rw [upcoming, hopen, if_neg Bool.false_ne_true]

/-- A timer that is called off is not expected to start a pass. -/
lemma pending_of_callsOff {c : Call V} (hc : c.callsOff = true) (now : Instant)
    (acts : List (Act V)) (st : Standing) : pending now (.call c :: acts) st = [] := by
  unfold pending
  split
  · rw [expectedOf, goesOff?, if_pos hc]
    rfl
  · rfl

/-- Other calls do not bear on the timer that is set. -/
lemma pending_of_not_callsOff {c : Call V} (hc : c.callsOff = false) (now : Instant)
    (acts : List (Act V)) (st : Standing) :
    pending now (.call c :: acts) st = pending now acts st := by
  unfold pending
  split
  · rw [expectedOf, goesOff?, hc, if_neg Bool.false_ne_true, expectedOf]
  · rfl

/-- Something that is done changes what is expected only as it changes the pipeline. -/
lemma upcoming_call (c : Call V) (now : Instant) (acts : List (Act V)) (d : Delay) {st : Standing}
    (hst : st.isClosed = true → st.timer = none) :
    upcoming now (.call c :: acts) d st = upcoming now acts (c.delay d) (c.standing now d st) := by
  cases hclosed : st.isClosed with
  | true =>
    have hnone := hst hclosed
    have hstanding :
        (c.standing now d st).isClosed = true ∧ (c.standing now d st).timer = none := by
      cases c <;> simp [Call.standing, hclosed, hnone]
    rw [upcoming_of_isClosed _ _ _ hclosed hnone,
      upcoming_of_isClosed _ _ _ hstanding.1 hstanding.2]
  | false =>
    rw [upcoming_of_isOpen _ _ _ hclosed]
    cases c with
    | update text =>
      rw [pending_of_callsOff rfl, List.nil_append, expected]
      cases hblank : Text.isBlankText text with
      | true =>
        simp only [Call.standing, hclosed, hblank, Bool.false_eq_true, if_false, if_true]
        rw [upcoming_of_isOpen _ _ _ rfl]
        rfl
      | false =>
        simp only [Call.standing, hclosed, hblank, Bool.false_eq_true, if_false]
        rw [upcoming_of_isOpen _ _ _ rfl]
        rfl
    | validateNow text =>
      rw [pending_of_callsOff rfl]
      simp only [Call.standing, hclosed, Bool.false_eq_true, if_false]
      rw [upcoming_of_isOpen _ _ _ rfl]
      rfl
    | flush ticket text =>
      rw [pending_of_callsOff rfl]
      simp only [Call.standing, hclosed, Bool.false_eq_true, if_false]
      rw [upcoming_of_isOpen _ _ _ rfl]
      rfl
    | teardown =>
      rw [pending_of_callsOff rfl]
      rfl
    | equip v d' =>
      rw [pending_of_not_callsOff rfl]
      exact (upcoming_of_isOpen _ _ _ hclosed).symm
    | release text =>
      rw [pending_of_not_callsOff rfl]
      exact (upcoming_of_isOpen _ _ _ hclosed).symm
    | cancel =>
      rw [pending_of_not_callsOff rfl]
      exact (upcoming_of_isOpen _ _ _ hclosed).symm

/-- Time that passes while the loop is held up changes nothing that is expected. -/
lemma upcoming_holdUp (now : Instant) (seconds : ℚ≥0) (acts : List (Act V)) (d : Delay)
    (st : Standing) :
    upcoming now (.holdUp seconds :: acts) d st = upcoming (now + seconds) acts d st := by
  have hpending : pending now (.holdUp seconds :: acts) st = pending (now + seconds) acts st := by
    unfold pending
    split <;> rfl
  rw [upcoming, upcoming, hpending]
  rfl

/-- What is expected after some time, and what has been started in it. -/
lemma Worked.upcoming {now : Instant} {seconds : ℚ≥0} {st st' : Standing}
    {starts : List (Instant × Pass)} (h : Worked now (now + seconds) st st' starts)
    (acts : List (Act V)) (d : Delay) :
    ∃ met, List.Forall₂ Meets starts met ∧
      upcoming now (.wait seconds :: acts) d st = met ++ upcoming (now + seconds) acts d st' := by
  cases h with
  | fired t due fired pass ht hdue hlt hmeets =>
    refine ⟨[⟨due, now, st.text⟩], .cons hmeets .nil, ?_⟩
    have hpending : pending now (.wait seconds :: acts) st = [⟨due, now, st.text⟩] := by
      obtain ⟨serial, due'⟩ := t
      obtain rfl : due' = .at due := hdue
      simp only [pending, ht, expectedOf, goesOff?, if_pos hlt, Option.map_some,
        Option.toList_some]
    rw [Debounce.upcoming, hpending]
    rfl
  | rested hlater =>
    refine ⟨[], .nil, ?_⟩
    have hpending : pending now (.wait seconds :: acts) st =
        pending (now + seconds) acts st := by
      unfold pending
      split
      · next serial due ht =>
        have hnot : ¬due < now + seconds + Platform.resolution := not_lt.2 (hlater _ due ht rfl)
        rw [expectedOf, goesOff?, if_neg hnot, expectedOf]
      · rfl
    rw [Debounce.upcoming, hpending]
    rfl

/-- From a loop that waits as it should, timers start the passes that are expected of them. -/
theorem Waits.starts_upcoming {l : EventLoop (Host V) HostJob} {d : Delay} (hl : Waits l s d)
    (acts : List (Act V)) :
    List.Forall₂ Meets (timerStarts env (doings env acts l))
      (upcoming l.now acts d s.pipeline.standing) := by
  induction acts generalizing l s d with
  | nil =>
    rw [upcoming_nil]
    exact .nil
  | cons act acts ih =>
    cases act with
    | wait seconds =>
      -- the loop works while time passes, and what it meets is expected no more
      have hle : l.now ≤ l.now + seconds := le_add_of_nonneg_right seconds.coe_nonneg
      obtain ⟨s', hl', hworked⟩ := hl.run env hle
      obtain ⟨met, hmet, hupcoming⟩ := hworked.upcoming acts d
      have hrest := ih hl'
      rw [EventLoop.now_run hle] at hrest
      rw [doings, timerStarts, List.flatMap_append, hupcoming]
      exact List.rel_append hmet hrest
    | holdUp seconds =>
      rw [upcoming_holdUp]
      exact ih (hl.holdUp _)
    | call c =>
      -- a call starts nothing by a timer, and changes what is expected as it changes the pipeline
      have hclosed : s.pipeline.isClosed = true → s.pipeline.timer = none := by
        intro hclosed
        cases ht : s.pipeline.timer with
        | none => rfl
        | some t =>
          rw [hl.isOpen t ht] at hclosed
          cases hclosed
      obtain ⟨s', hl', hstanding⟩ := hl.absorb env c
      have hrest := ih hl'
      rw [hstanding] at hrest
      rw [upcoming_call c l.now acts d hclosed]
      exact hrest

/-- A pipeline on an event loop, with nothing done about it yet. -/
def fresh (name : String) (v : V) (d : Delay) (now : Instant) : EventLoop (Host V) HostJob where
  state := { slots := [⟨name, v, { delay := d.value }⟩] }
  now := now

/-- From the start, timers start the passes that are expected of them. -/
lemma starts_fresh (env : Surroundings V) (name : String) (v : V) (d : Delay) (now : Instant)
    (acts : List (Act V)) :
    List.Forall₂ Meets (timerStarts env (doings env acts (fresh name v d now)))
      (expected d.seconds now acts) := by
  have hl : Waits (fresh name v d now) ⟨name, v, { delay := d.value }⟩ d :=
    ⟨rfl, rfl, nofun, nofun, nofun, nofun, nofun, .nil⟩
  exact hl.starts_upcoming acts

/-- **Debouncing is exact.** Whatever is done about a pipeline while time passes, its timers start
just the passes that they are to start, one after the other: one for each update with a text that is
not blank, made before the pipeline is torn down, that no other call follows before the loop gets to
its timer. The pass is one over the text of that update, and starts when the delay in force then has
passed, or when the loop goes on if it is held up then. The validator is asked about the text of
every such pass. -/
theorem starts_exactly (env : Surroundings V) (name : String) (v : V) (d : Delay) (now : Instant)
    (acts : List (Act V)) :
    List.Forall₂ Meets (timerStarts env (doings env acts (fresh name v d now)))
        (expected d.seconds now acts) ∧
      ∀ start ∈ timerStarts env (doings env acts (fresh name v d now)),
        Host.Consults env 0 start.2 (doings env acts (fresh name v d now)) := by
  refine ⟨starts_fresh env name v d now acts, consults_timerStarts env ?_ acts⟩
  exact ⟨⟨{ delay := d.value }, rfl, nofun, nofun, nofun, nofun⟩, nofun⟩

end Starts

section Usual

open Platform.Usual

/-- Half a second. -/
def halfSecond : Delay where
  value := .finite false 1 (-1)
  seconds := 1 / 2
  isFinite := by decide +kernel
  isNonneg := by decide +kernel

/-- Of two updates within the delay the second one is validated. The loop is held up when its timer
falls due, so the pass starts when the loop goes on. -/
theorem starts_exactly_heldUp :
    ∃ (env : Surroundings Unit) (start : Instant × Pass),
      timerStarts env (doings env
        [.call (.update ['A']), .wait (1 / 4), .call (.update ['B']), .holdUp 1, .wait 1]
        (fresh "a" () halfSecond 0)) = [start] ∧ start.1 = 5 / 4 ∧ start.2.text = ['B'] := by
  let env : Surroundings Unit := ⟨fun _ _ => .answers (.ok ()), fun _ => {}⟩
  obtain ⟨hstarts, -⟩ := starts_exactly env "a" () halfSecond 0
    [.call (.update ['A']), .wait (1 / 4), .call (.update ['B']), .holdUp 1, .wait 1]
  rw [show expected halfSecond.seconds 0 _ = [⟨3 / 4, 5 / 4, ['B']⟩] by decide +kernel] at hstarts
  obtain ⟨start, rest, hmeets, hnil, heq⟩ := List.forall₂_cons_right_iff.1 hstarts
  rw [List.forall₂_nil_right_iff.1 hnil] at heq
  refine ⟨env, start, heq, le_antisymm ?_ hmeets.notEarly.2, hmeets.text⟩
  exact hmeets.notLate.trans (max_le (by norm_num) (le_refl _))

/-- Without a delay. -/
def noDelay : Delay where
  value := .finite false 0 0
  seconds := 0
  isFinite := by decide +kernel
  isNonneg := by decide +kernel

/-- Whether a call that calls off timers is made before some instant, when some things are done from
another one on. -/
def callsOffBefore {V : Type} (due : Instant) : Instant → List (Act V) → Bool
  | _, [] => false
  | now, .call c :: acts => (c.callsOff && now < due) || callsOffBefore due now acts
  | now, .wait seconds :: acts => callsOffBefore due (now + seconds) acts
  | now, .holdUp seconds :: acts => callsOffBefore due (now + seconds) acts

/-- It is not enough that no call is made before the timer falls due: it may be made when the timer
has fallen due, and come to the loop first. Without a delay, this is so for a call that is made at
once. -/
theorem not_forall_starts_exactly :
    ¬∀ (env : Surroundings Unit) (d : Delay) (text : Text) (acts : List (Act Unit))
      (seconds : ℚ≥0), Text.isBlankText text = false →
      callsOffBefore d.seconds 0 acts = false → d.seconds ≤ seconds →
      ∃ start ∈ timerStarts env (doings env (.call (.update text) :: acts ++ [.wait seconds])
        (fresh "a" () d 0)), start.2.text = text := by
  intro hall
  let env : Surroundings Unit := ⟨fun _ _ => .answers (.ok ()), fun _ => {}⟩
  obtain ⟨start, hstart, htext⟩ := hall env noDelay ['A'] [.call (.update ['B'])] 1
    (by decide) (by decide +kernel) (by decide +kernel)
  have hstarts := starts_fresh env "a" () noDelay 0
    [.call (.update ['A']), .call (.update ['B']), .wait 1]
  rw [show expected noDelay.seconds 0 _ = [⟨0, 0, ['B']⟩] by decide +kernel] at hstarts
  obtain ⟨only, rest, hmeets, hnil, heq⟩ := List.forall₂_cons_right_iff.1 hstarts
  rw [List.forall₂_nil_right_iff.1 hnil] at heq
  rw [List.cons_append, List.cons_append, List.nil_append, heq, List.mem_singleton] at hstart
  rw [hstart, hmeets.text] at htext
  cases htext

end Usual

end Debounce

end Mermaid
