import Mathlib.Data.List.Nodup
import Mermaid.Proofs.Pipeline.Cancellation

/-!
# What the phase says

A pipeline changes its timer, its numbers, its phase, its passes and its markers one after the
other, and a receiver may raise an error before all of it is handed over. Whatever happens, in
whatever order, the phase agrees with the rest.

* `Coherent` is the invariant on the timer and the markers; `Transition.coherent` keeps it.
* The numbers of the passes in flight grow, so no two passes share one.
* `Pipeline.respond_of_closed`: a pipeline that is closed stays closed, and nothing comes of it.
-/

namespace Mermaid

/-! ## The timer and the markers -/

/-- Whether the timer and the markers of a pipeline are as its phase says. -/
structure Coherent (p : Pipeline) : Prop where
  timer_iff : p.timer.isSome = true ↔ p.phase = .pending
  unmarked : p.phase = .idle ∨ p.phase = .clean → p.markers = []
  marked : p.phase = .error → p.markers.length = 1
  length_le : p.markers.length ≤ 1

/-- The markers of an outcome are those that its phase asks for. -/
lemma Showing.markers_ofVerdict (v : Verdict) :
    ((ofVerdict v).phase = .clean ∧ (ofVerdict v).markers = []) ∨
      ((ofVerdict v).phase = .error ∧ (ofVerdict v).markers.length = 1) := by
  cases v with
  | ok => exact .inl ⟨rfl, rfl⟩
  | error f => exact .inr ⟨rfl, rfl⟩

namespace Coherent

variable {p p' : Pipeline}

/-- A fresh pipeline has neither a timer nor markers. -/
lemma start (d : Binary64) : Coherent { delay := d } where
  timer_iff := ⟨by rintro ⟨⟩, by rintro ⟨⟩⟩
  unmarked := fun _ => rfl
  marked := by rintro ⟨⟩
  length_le := Nat.zero_le _

/-- Only the timer, the phase and the markers count. -/
lemma congr (hc : Coherent p) (htimer : p'.timer = p.timer) (hphase : p'.phase = p.phase)
    (hmarkers : p'.markers = p.markers) : Coherent p' where
  timer_iff := by
    rw [htimer, hphase]
    exact hc.timer_iff
  unmarked := by
    rw [hphase, hmarkers]
    exact hc.unmarked
  marked := by
    rw [hphase, hmarkers]
    exact hc.marked
  length_le := by
    rw [hmarkers]
    exact hc.length_le

/-- While no outcome is shown, the phase leaves the markers open. -/
lemma of_unsettled (htimer : p.timer.isSome = true ↔ p.phase = .pending)
    (hphase : p.phase = .pending ∨ p.phase = .validating ∨ p.phase = .closed)
    (hlength : p.markers.length ≤ 1) : Coherent p where
  timer_iff := htimer
  unmarked := by
    intro hshown
    rcases hphase with h | h | h <;> simp [h] at hshown
  marked := by
    intro hshown
    rcases hphase with h | h | h <;> simp [h] at hshown
  length_le := hlength

lemma timer_eq_none (hc : Coherent p) (hphase : p.phase ≠ .pending) : p.timer = none := by
  cases ht : p.timer with
  | none => rfl
  | some t => exact absurd (hc.timer_iff.1 (by rw [ht]; rfl)) hphase

/-- Taking an outcome keeps the phase in agreement, also when the timer has been set again. -/
lemma settle (hc : Coherent p) (r : Receivers) (v : Verdict) :
    Coherent (p.settle r v).pipeline := by
  obtain ⟨htimer, hphase⟩ := p.settle_phase r v
  obtain ⟨-, hmarkers⟩ := p.settle_outcome r v
  have hlength : (Showing.ofVerdict v).markers.length ≤ 1 := by
    rcases Showing.markers_ofVerdict v with ⟨-, hnone⟩ | ⟨-, hone⟩
    · simp [hnone]
    · exact Nat.le_of_eq hone
  rw [← hmarkers] at hlength
  cases hset : p.timer.isSome with
  | true =>
    -- the next text is waited for already: the markers change, the phase does not
    rw [hset, if_pos rfl, hc.timer_iff.1 hset] at hphase
    refine .of_unsettled ?_ (.inl hphase) hlength
    rw [htimer, hset, hphase]
    simp
  | false =>
    rw [hset, if_neg Bool.false_ne_true] at hphase
    rcases Showing.markers_ofVerdict v with ⟨hclean, hnone⟩ | ⟨herror, hone⟩
    · rw [hclean] at hphase
      refine ⟨?_, fun _ => hmarkers.trans hnone, ?_, hlength⟩ <;> simp [htimer, hset, hphase]
    · rw [herror] at hphase
      refine ⟨?_, ?_, fun _ => hmarkers ▸ hone, hlength⟩ <;> simp [htimer, hset, hphase]

end Coherent

/-- Whatever happens, the timer and the markers stay as the phase says. -/
lemma Transition.coherent {r : Receivers} {p : Pipeline} {h : Happening} {c : Change}
    (ht : Transition r p h c) (hc : Coherent p) : Coherent c.pipeline := by
  cases ht with
  | ignored _ _ _ => exact hc
  | cleared _ _ _ _ =>
    exact ⟨⟨by rintro ⟨⟩, by rintro ⟨⟩⟩, fun _ => rfl, by rintro ⟨⟩, Nat.zero_le _⟩
  | armed _ _ _ _ _ => exact .of_unsettled ⟨fun _ => rfl, fun _ => rfl⟩ (.inl rfl) hc.length_le
  | started _ _ _ _ _ =>
    exact .of_unsettled ⟨by rintro ⟨⟩, by rintro ⟨⟩⟩ (.inr (.inl rfl)) hc.length_le
  | fired _ _ =>
    exact .of_unsettled ⟨by rintro ⟨⟩, by rintro ⟨⟩⟩ (.inr (.inl rfl)) hc.length_le
  | settled n v _ _ _ _ _ =>
    -- the pass leaves first, whatever the receivers make of its outcome
    have hdropped : Coherent (p.drop n) := hc.congr rfl rfl rfl
    exact hdropped.settle r v
  | outdated _ _ _ => exact hc.congr rfl rfl rfl
  | cancelled _ => exact hc.congr rfl rfl rfl
  | tornDown =>
    exact .of_unsettled ⟨by rintro ⟨⟩, by rintro ⟨⟩⟩ (.inr (.inr rfl)) hc.length_le
  | delayed _ => exact hc.congr rfl rfl rfl

namespace Pipeline

/-! ## The timer that is set -/

/-- Whether the timer that is set is the one set last. -/
def TimerIsNewest (p : Pipeline) : Prop := ∀ t, p.timer = some t → t.serial + 1 = p.timersSet

/-- Setting a timer does away with the one set before. -/
lemma TimerIsNewest.respond {p : Pipeline} (hp : p.TimerIsNewest) (r : Receivers)
    (h : Happening) : (p.respond r h).pipeline.TimerIsNewest := by
  have hnone : ∀ p' : Pipeline, p'.timer = none → p'.TimerIsNewest := by
    intro p' hp' t ht
    rw [hp'] at ht
    cases ht
  have hvalidated : ∀ caller text, (p.validateNow r caller text).pipeline.TimerIsNewest := by
    intro caller text
    unfold validateNow
    dsimp only
    split_ifs
    · exact hp
    · exact hnone _ rfl
    · exact hnone _ rfl
  cases h with
  | update now text =>
    rw [Pipeline.respond, update]
    dsimp only
    split_ifs
    · exact hp
    · exact hnone _ rfl
    · rintro t ⟨⟩
      rfl
  | validateNow text => exact hvalidated none text
  | flush ticket text => exact hvalidated (some ticket) text
  | setDelay d => exact hp
  | teardown => exact hnone _ rfl
  | fire serial =>
    rw [Pipeline.respond, fire]
    split_ifs
    · exact hnone _ rfl
    · exact hp
  | finish n v =>
    rw [Pipeline.respond, finish]
    split
    · exact hp
    · dsimp only
      split_ifs
      · exact hp
      · have hsettled : ∀ phase, ((p.drop n).settled phase).TimerIsNewest := by
          intro phase
          unfold settled
          split <;> exact hp
        cases v with
        | ok => exact hsettled .clean
        | error f => exact hsettled .error
  | cancel n => exact hp

end Pipeline

/-! ## The numbers of the passes in flight -/

/-- Whether a pipeline has handed out the next number to a pass, and put it in flight. -/
structure Pipeline.Starts (p p' : Pipeline) (pass : Pass) : Prop where
  number : pass.number = p.issued + 1
  issued : p'.issued = p.issued + 1
  flying : p'.inFlight = p.inFlight ++ [pass]

/-- Passes end, or one starts with a number of its own. -/
lemma Transition.inFlight_cases {r : Receivers} {p : Pipeline} {h : Happening} {c : Change}
    (ht : Transition r p h c) :
    (c.started = none ∧ c.pipeline.inFlight.Sublist p.inFlight) ∨
      ∃ pass, c.started = some pass ∧ p.Starts c.pipeline pass := by
  cases ht with
  | ignored _ _ _ => exact .inl ⟨rfl, List.Sublist.refl _⟩
  | cleared _ _ _ _ => exact .inl ⟨rfl, List.Sublist.refl _⟩
  | armed _ _ _ _ _ => exact .inl ⟨rfl, List.Sublist.refl _⟩
  | started _ caller _ _ _ => exact .inr ⟨⟨_, _, caller⟩, rfl, rfl, rfl, rfl⟩
  | fired _ _ => exact .inr ⟨⟨_, _, none⟩, rfl, rfl, rfl, rfl⟩
  | settled n v _ _ _ _ _ =>
    obtain ⟨-, hflight, hstarted, -⟩ := Pipeline.settle_numbers r v (p.drop n)
    rw [hflight, hstarted]
    exact .inl ⟨rfl, List.filter_sublist⟩
  | outdated _ _ _ => exact .inl ⟨rfl, List.filter_sublist⟩
  | cancelled _ => exact .inl ⟨rfl, List.filter_sublist⟩
  | tornDown => exact .inl ⟨rfl, List.Sublist.refl _⟩
  | delayed _ => exact .inl ⟨rfl, List.Sublist.refl _⟩

/-! ## A pipeline that is closed -/

namespace Pipeline

/-- A pipeline that is closed stays so, and hands nothing over. -/
lemma respond_of_closed {p : Pipeline} (hclosed : p.isClosed = true) (htimer : p.timer = none)
    (r : Receivers) (h : Happening) :
    (p.respond r h).published = none ∧ (p.respond r h).reported = none ∧
      (p.respond r h).pipeline.isClosed = true ∧ (p.respond r h).pipeline.timer = none := by
  cases h with
  | update now text =>
    rw [respond, update, hclosed, if_pos rfl]
    exact ⟨rfl, rfl, hclosed, htimer⟩
  | validateNow text =>
    rw [respond, validateNow, hclosed, if_pos rfl]
    exact ⟨rfl, rfl, hclosed, htimer⟩
  | flush ticket text =>
    rw [respond, validateNow, hclosed, if_pos rfl]
    exact ⟨rfl, rfl, hclosed, htimer⟩
  | setDelay d => exact ⟨rfl, rfl, hclosed, htimer⟩
  | teardown => exact ⟨rfl, rfl, rfl, rfl⟩
  | fire serial =>
    rw [respond, fire, htimer]
    exact ⟨rfl, rfl, hclosed, htimer⟩
  | finish n v =>
    -- passes that are still in flight do end, but nobody looks at their outcomes
    rw [respond, finish]
    split
    · exact ⟨rfl, rfl, hclosed, htimer⟩
    · have hdropped : (p.drop n).isClosed = true := hclosed
      dsimp only
      rw [if_pos (by rw [hdropped, Bool.true_or])]
      exact ⟨rfl, rfl, hclosed, htimer⟩
  | cancel n => exact ⟨rfl, rfl, hclosed, htimer⟩

namespace Run

variable {p p' : Pipeline} {ms ms' : List Moment} {d : Binary64}

lemma coherent (hrun : Run { delay := d } ms p) : Coherent p := by
  induction hrun with
  | start => exact .start d
  | step r h _ hpossible ih => exact (respond_transition r _ h hpossible).coherent ih

lemma timerIsNewest (hrun : Run { delay := d } ms p) : p.TimerIsNewest := by
  induction hrun with
  | start => rintro t ⟨⟩
  | step r h _ _ ih => exact ih.respond r h

/-- The numbers of the passes in flight grow in the order in which these were started. -/
lemma flying_sorted (hrun : Run { delay := d } ms p) :
    (p.inFlight.map Pass.number).Pairwise (· < ·) := by
  induction hrun with
  | start => exact .nil
  | @step ms p r h hrun hpossible ih =>
    rcases (respond_transition r p h hpossible).inFlight_cases with ⟨-, hsub⟩ | ⟨pass, -, hstarts⟩
    · exact ih.sublist (hsub.map _)
    · rw [hstarts.flying, List.map_append, List.pairwise_append]
      refine ⟨ih, List.pairwise_singleton _ _, ?_⟩
      intro a ha b hb
      obtain ⟨flying, hflying, rfl⟩ := List.mem_map.1 ha
      rw [List.map_singleton, List.mem_singleton, hstarts.number] at hb
      rw [hb]
      exact Nat.lt_succ_of_le (hrun.numbering.flying_le flying hflying)

/-- A pipeline that is closed is never opened again. -/
lemma stays_closed (hrun : Run p ms' p') (hclosed : p.isClosed = true) (htimer : p.timer = none) :
    p'.isClosed = true ∧ p'.timer = none := by
  induction hrun with
  | start => exact ⟨hclosed, htimer⟩
  | step r h _ _ ih => exact (respond_of_closed ih.1 ih.2 r h).2.2

/-- **The phase agrees with the rest.** Whatever happens, in whatever order, and whichever receivers
raise an error: a timer is set exactly while the pipeline is pending, and then the one set last is
the only one that can fire; while the pipeline is validating, exactly one pass in flight has the
highest number, unless that pass has been cancelled; there are no markers while it is idle or clean,
exactly one while it shows an error, and never more than one; and once closed, it stays closed. -/
theorem phase_agrees (hrun : Run { delay := d } ms p) :
    (p.timer.isSome = true ↔ p.phase = .pending) ∧
      (∀ serial, (Happening.fire serial).isPossible p = true ↔
        p.phase = .pending ∧ serial + 1 = p.timersSet) ∧
      (p.phase = .validating → (∀ m ∈ ms, m.happening ≠ .cancel p.issued) →
        (p.inFlight.map Pass.number).count p.issued = 1) ∧
      (p.phase = .idle ∨ p.phase = .clean → p.markers = []) ∧
      (p.phase = .error → p.markers.length = 1) ∧
      p.markers.length ≤ 1 ∧
      ∀ ms' p', Run p ms' p' → p.phase = .closed → p'.phase = .closed := by
  have hc := hrun.coherent
  refine ⟨hc.timer_iff, ?_, ?_, hc.unmarked, hc.marked, hc.length_le, ?_⟩
  · intro serial
    rw [← hc.timer_iff]
    show (p.timer.any fun t => t.serial = serial) = true ↔ _
    cases ht : p.timer with
    | none => simp
    | some t =>
      have hnewest := hrun.timerIsNewest t ht
      simp only [Option.any_some, decide_eq_true_eq, Option.isSome_some, true_and]
      omega
  · intro hphase huncancelled
    -- there is such a pass, and as the numbers of passes differ, it is the only one
    obtain ⟨pass, hpass, hnumber⟩ := (hrun.flying_iff_of_validating hphase).2 huncancelled
    have hnodup : (p.inFlight.map Pass.number).Nodup := hrun.flying_sorted.imp Nat.ne_of_lt
    exact List.count_eq_one_of_mem hnodup (List.mem_map.2 ⟨pass, hpass, hnumber⟩)
  · intro ms' p' hrun' hphase
    have hclosed : p.isClosed = true := decide_eq_true hphase
    have htimer := hc.timer_eq_none (by simp [hphase])
    exact of_decide_eq_true (hrun'.stays_closed hclosed htimer).1

/-- A text is rejected while the timer is set for the next one, and all receivers raise errors. The
marker stays while two passes over later texts are in flight: the pipeline waits for the newer one,
and no timer can fire. -/
theorem phase_agrees_rejected :
    ∃ ms p, Run { delay := .zero false } ms p ∧ p.phase = .validating ∧ p.inFlight.length = 2 ∧
      p.markers ≠ [] ∧ p.markers.length ≤ 1 ∧
      (p.inFlight.map Pass.number).count p.issued = 1 ∧
      ∀ serial, (Happening.fire serial).isPossible p ≠ true := by
  have hrun := (Run.start : Run { delay := .zero false } [] _)
    |>.step ⟨true, true⟩ (.update 0 ['a']) rfl
    |>.step ⟨true, true⟩ (.fire 0) rfl
    |>.step ⟨true, true⟩ (.update 1 ['b']) rfl
    |>.step ⟨true, true⟩ (.finish 1 (.error (.unavailable "gone"))) rfl
    |>.step ⟨true, true⟩ (.fire 1) rfl
    |>.step ⟨true, true⟩ (.flush 7 (some ['c'])) rfl
  obtain ⟨-, hfire, hflying, -, -, hlength, -⟩ := phase_agrees hrun
  refine ⟨_, _, hrun, rfl, rfl, by rintro ⟨⟩, hlength, hflying rfl (by simp), ?_⟩
  intro serial hpossible
  cases ((hfire serial).1 hpossible).1

end Run

end Pipeline

end Mermaid
