import Mermaid.Proofs.Pipeline.Passes
import Mermaid.Proofs.Pipeline.Records

/-!
# What a cancelled caller takes along

Whoever cancels a caller who waits for a pass cancels the pass. It ends without a verdict, and its
outcome is lost; all other passes go on.

While a pipeline is validating, its newest pass is in flight or has been cancelled. In the latter
case nothing is left to end this phase: it lasts until the next call.
-/

namespace Mermaid

/-! ## What a pipeline waits for -/

/-- A pipeline waits for the timer that is set, or for a verdict on its newest pass. -/
structure Expects (ms : List Moment) (p : Pipeline) : Prop where
  timer : p.timer.isSome = true → p.phase = .pending
  started : p.phase = .validating → ∃ pass ∈ ms.flatMap Moment.started, pass.number = p.issued
  unfinished : p.phase = .validating → ∀ m ∈ ms, ∀ v, m.happening ≠ .finish p.issued v

/-- An outcome leads to a phase of its own, unless a timer is set. -/
lemma Pipeline.settle_phase (r : Receivers) (v : Verdict) (p : Pipeline) :
    (p.settle r v).pipeline.timer = p.timer ∧ (p.settle r v).pipeline.phase =
      if p.timer.isSome then p.phase else (Showing.ofVerdict v).phase := by
  have hsettled : ∀ phase, (p.settled phase).timer = p.timer ∧
      (p.settled phase).phase = if p.timer.isSome then p.phase else phase := by
    intro phase
    unfold settled
    split <;> exact ⟨rfl, rfl⟩
  cases v with
  | ok => exact hsettled .clean
  | error f => exact hsettled .error

lemma Showing.phase_ofVerdict_ne (v : Verdict) : (ofVerdict v).phase ≠ .validating := by
  cases v <;> simp [ofVerdict]

namespace Expects

variable {ms : List Moment} {p p' : Pipeline} {m : Moment}

lemma timer_eq_none (he : Expects ms p) (hphase : p.phase = .validating) : p.timer = none := by
  cases ht : p.timer with
  | none => rfl
  | some t =>
    have hpending := he.timer (by rw [ht]; rfl)
    rw [hphase] at hpending
    cases hpending

/-- A pipeline that is not validating waits for no verdict. -/
lemma of_phase_ne (htimer : p.timer.isSome = true → p.phase = .pending)
    (hphase : p.phase ≠ .validating) : Expects ms p :=
  ⟨htimer, fun h => absurd h hphase, fun h => absurd h hphase⟩

/-- A pipeline goes on waiting, unless its newest pass ends with a verdict. -/
lemma concat (he : Expects ms p) (htimer : p'.timer = p.timer) (hphase : p'.phase = p.phase)
    (hissued : p'.issued = p.issued)
    (hfinish : p.phase = .validating → ∀ v, m.happening ≠ .finish p.issued v) :
    Expects (ms ++ [m]) p' where
  timer := by
    rw [htimer, hphase]
    exact he.timer
  started := by
    rw [hphase, hissued, List.flatMap_append]
    intro hvalidating
    obtain ⟨pass, hpass, hnumber⟩ := he.started hvalidating
    exact ⟨pass, List.mem_append_left _ hpass, hnumber⟩
  unfinished := by
    rw [hphase, hissued]
    intro hvalidating m' hm' v
    rcases List.mem_append.1 hm' with hold | hnew
    · exact he.unfinished hvalidating m' hold v
    · rw [List.mem_singleton.1 hnew]
      exact hfinish hvalidating v

/-- A pipeline that starts a pass waits for the verdict on it. -/
lemma of_start {caller : Option Nat} (htimer : p.timer = none)
    (hstarted : m.change.started = (p.start caller).started)
    (hle : ∀ m' ∈ ms ++ [m], ∀ n v, m'.happening = .finish n v → n ≤ p.issued) :
    Expects (ms ++ [m]) (p.start caller).pipeline where
  timer := by
    intro hset
    rw [show (p.start caller).pipeline.timer = none from htimer] at hset
    cases hset
  started := by
    intro _
    refine ⟨⟨p.issued + 1, p.text, caller⟩, ?_, rfl⟩
    rw [List.flatMap_append, List.flatMap_singleton, Moment.started, hstarted]
    exact List.mem_append_right _ (List.mem_singleton.2 rfl)
  unfinished := by
    intro _ m' hm' v hfinish
    exact Nat.not_succ_le_self _ (hle m' hm' _ v hfinish)

end Expects

/-- Whatever happens, a pipeline waits for its timer or for a verdict on its newest pass. -/
lemma Transition.expects {ms : List Moment} {m : Moment} {r : Receivers} {p : Pipeline}
    {h : Happening} {c : Change} (ht : Transition r p h c) (he : Expects ms p)
    (hle : ∀ m' ∈ ms, ∀ n v, m'.happening = .finish n v → n ≤ p.issued)
    (hh : m.happening = h) (hstarted : m.change.started = c.started) :
    Expects (ms ++ [m]) c.pipeline := by
  have hle' : (∀ n v, h ≠ .finish n v) → ∀ m' ∈ ms ++ [m], ∀ n v, m'.happening = .finish n v →
      n ≤ p.issued := by
    intro hno m' hm' n v hfinish
    rcases List.mem_append.1 hm' with hold | hnew
    · exact hle m' hold n v hfinish
    · rw [List.mem_singleton.1 hnew, hh] at hfinish
      exact absurd hfinish (hno n v)
  have hentered : h.isEntry = true → ∀ n v, h ≠ .finish n v := by
    rintro hentry n v rfl
    cases hentry
  cases ht with
  | ignored _ _ hentry => exact he.concat rfl rfl rfl fun _ v => hh ▸ hentered hentry _ v
  | cleared _ _ _ _ => exact .of_phase_ne (by rintro ⟨⟩) (by rintro ⟨⟩)
  | armed _ _ _ _ _ => exact .of_phase_ne (fun _ => rfl) (by rintro ⟨⟩)
  | started _ _ _ hentry _ => exact .of_start rfl hstarted (hle' (hentered hentry))
  | fired serial _ => exact .of_start rfl hstarted (hle' (by rintro n v ⟨⟩))
  | settled n v pass _ _ _ _ =>
    obtain ⟨htimer, hphase⟩ := Pipeline.settle_phase r v (p.drop n)
    rw [show (p.drop n).timer = p.timer from rfl] at htimer hphase
    cases hset : p.timer.isSome with
    | true =>
      -- with a timer set the pipeline was pending, and stays so
      rw [hset, if_pos rfl, show (p.drop n).phase = p.phase from rfl, he.timer hset] at hphase
      exact .of_phase_ne (fun _ => hphase) (by simp [hphase])
    | false =>
      rw [hset, if_neg Bool.false_ne_true] at hphase
      refine .of_phase_ne (fun hset' => ?_) (hphase ▸ Showing.phase_ofVerdict_ne v)
      rw [htimer, hset] at hset'
      cases hset'
  | outdated n v hstale =>
    refine he.concat rfl rfl rfl fun hphase w hfinish => ?_
    rw [hh] at hfinish
    cases hfinish
    rcases hstale with hclosed | hne
    · simp [Pipeline.isClosed, hphase] at hclosed
    · exact hne rfl
  | cancelled n => exact he.concat rfl rfl rfl fun _ v => by simp [hh]
  | tornDown => exact .of_phase_ne (by rintro ⟨⟩) (by rintro ⟨⟩)
  | delayed d => exact he.concat rfl rfl rfl fun _ v => by simp [hh]

namespace Pipeline.Run

variable {p p' : Pipeline} {ms ms' : List Moment} {d : Binary64}

/-- Along every run a pipeline waits for its timer or for a verdict on its newest pass. -/
lemma expects (hrun : Run { delay := d } ms p) : Expects ms p := by
  induction hrun with
  | start => exact .of_phase_ne (by rintro ⟨⟩) (by rintro ⟨⟩)
  | @step ms p r h hrun hpossible ih =>
    exact (respond_transition r p h hpossible).expects ih
      (fun m hm n v hfinish => hrun.le_issued_of_endsPass hm (.inl ⟨v, hfinish⟩)) rfl rfl

/-- While a pipeline is validating, its newest pass is in flight, unless it has been cancelled. -/
lemma flying_iff_of_validating (hrun : Run { delay := d } ms p) (hphase : p.phase = .validating) :
    (∃ pass ∈ p.inFlight, pass.number = p.issued) ↔ ∀ m ∈ ms, m.happening ≠ .cancel p.issued := by
  constructor
  · rintro ⟨pass, hpass, hnumber⟩ m hm hcancel
    exact hrun.number_ne_of_endsPass hm (.inr hcancel) pass hpass hnumber
  · intro huncancelled
    obtain ⟨pass, hpass, hnumber⟩ := hrun.expects.started hphase
    rcases hrun.flying_or_ended pass hpass with hflying | ⟨m, hm, ⟨v, hfinish⟩ | hcancel⟩
    · exact ⟨pass, hflying, hnumber⟩
    · exact absurd (hnumber ▸ hfinish) (hrun.expects.unfinished hphase m hm v)
    · exact absurd (hnumber ▸ hcancel) (huncancelled m hm)

section Usual

open Platform.Usual

end Usual

end Pipeline.Run

end Mermaid
