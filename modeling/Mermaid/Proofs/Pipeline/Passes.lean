import Mermaid.Proofs.Pipeline.Hosting
import Mermaid.Proofs.Pipeline.Settlement

/-!
# What becomes of passes

A pass that has been started is in flight until it ends, with a verdict or because it is cancelled.
It ends at most once, and its outcome is applied at that moment or never: only if it is the newest
pass then, and the pipeline is open.

The markers of a pipeline are those of the outcome that has been applied last.
-/

namespace Mermaid

namespace Moment

/-- Whether a pass ends at a moment, with a verdict or without. -/
def EndsPass (m : Moment) (n : Nat) : Prop :=
  (∃ v, m.happening = .finish n v) ∨ m.happening = .cancel n

/-- The outcome that is applied at a moment, with its number, if there is one. -/
def outcomes (m : Moment) : List (Nat × List Marker) := m.applied.map fun n => (n, m.after.markers)

lemma applies_of_mem_applied {m : Moment} {n : Nat} (h : n ∈ m.applied) : m.Applies := by
  left
  intro hnone
  rw [applied, hnone] at h
  cases h

/-- A call that publishes markers applies the number it hands out. -/
lemma applied_of_isEntry {m : Moment} {markers : List Marker}
    (hentry : m.happening.isEntry = true) (hpublished : m.change.published = some markers) :
    m.applied = [m.after.issued] := by
  rw [applied, hpublished]
  cases hh : m.happening <;> simp_all [Happening.isEntry]

end Moment

/-- The outcome that has been applied last, with its number. -/
def lastOutcome (ms : List Moment) : Option (Nat × List Marker) :=
  (ms.flatMap Moment.outcomes).getLast?

/-! ## One happening -/

/-- The outcome of a verdict is handed to the receivers, whether they raise errors or not. -/
lemma Pipeline.settle_outcome (r : Receivers) (v : Verdict) (p : Pipeline) :
    (p.settle r v).published = some (Showing.ofVerdict v).markers ∧
      (p.settle r v).pipeline.markers = (Showing.ofVerdict v).markers := by
  cases v <;> exact ⟨rfl, rfl⟩

/-- The newest pass that ends while the pipeline is open is applied. -/
lemma Transition.outcome_of_newest {r : Receivers} {p : Pipeline} {v : Verdict} {c : Change}
    (ht : Transition r p (.finish p.issued v) c) (hopen : p.isClosed = false) :
    c.published = some (Showing.ofVerdict v).markers ∧
      c.pipeline.markers = (Showing.ofVerdict v).markers := by
  cases ht with
  | ignored _ _ hentry => cases hentry
  | cleared _ _ hentry _ => cases hentry
  | armed _ _ _ hentry _ => cases hentry
  | started _ _ _ hentry _ => cases hentry
  | settled _ _ _ _ _ _ _ => exact Pipeline.settle_outcome r v _
  | outdated _ _ hstale => simp [hopen] at hstale

/-- What is handed to the receivers of an open pipeline is shown. It is the verdict on the newest
pass, or there is nothing to show of a blank text that takes a number. -/
lemma Transition.published_cases {r : Receivers} {p : Pipeline} {h : Happening} {c : Change}
    (ht : Transition r p h c) {markers : List Marker} (hpublished : c.published = some markers) :
    c.pipeline.markers = markers ∧ p.isClosed = false ∧
      ((∃ v, h = .finish p.issued v ∧ markers = (Showing.ofVerdict v).markers) ∨
        (h.isEntry = true ∧ Text.isBlankText (h.text?.getD p.text) = true ∧
          c.pipeline.issued = p.issued + 1 ∧ markers = [])) := by
  cases ht with
  | cleared _ hopen hentry hblank =>
    obtain rfl : [] = markers := Option.some.inj hpublished
    exact ⟨rfl, hopen, .inr ⟨hentry, hblank, rfl, rfl⟩⟩
  | settled n v pass _ _ hopen hnewest =>
    subst hnewest
    obtain ⟨hsettled, hmarkers⟩ := Pipeline.settle_outcome r v (p.drop p.issued)
    obtain rfl : (Showing.ofVerdict v).markers = markers :=
      Option.some.inj (hsettled.symm.trans hpublished)
    exact ⟨hmarkers, hopen, .inl ⟨v, rfl, rfl⟩⟩
  | _ => cases hpublished

/-- A pass in flight stays there until it ends. -/
lemma Transition.flying_or_ended {r : Receivers} {p : Pipeline} {h : Happening} {c : Change}
    (ht : Transition r p h c) {pass : Pass} (hpass : pass ∈ p.inFlight) :
    pass ∈ c.pipeline.inFlight ∨ (∃ v, h = .finish pass.number v) ∨ h = .cancel pass.number := by
  have hdrop : ∀ n, pass.number ≠ n → pass ∈ (p.drop n).inFlight := by
    intro n hne
    rw [Pipeline.drop, List.mem_filter]
    exact ⟨hpass, by simpa using hne⟩
  cases ht with
  | ignored _ _ _ => exact .inl hpass
  | cleared _ _ _ _ => exact .inl hpass
  | armed _ _ _ _ _ => exact .inl hpass
  | started _ _ _ _ _ => exact .inl (List.mem_append_left _ hpass)
  | fired _ _ => exact .inl (List.mem_append_left _ hpass)
  | settled n v _ _ _ _ _ =>
    by_cases hn : pass.number = n
    · exact .inr (.inl ⟨v, by rw [hn]⟩)
    · rw [(Pipeline.settle_numbers r v (p.drop n)).2.1]
      exact .inl (hdrop n hn)
  | outdated n v _ =>
    by_cases hn : pass.number = n
    · exact .inr (.inl ⟨v, by rw [hn]⟩)
    · exact .inl (hdrop n hn)
  | cancelled n =>
    by_cases hn : pass.number = n
    · exact .inr (.inr (by rw [hn]))
    · exact .inl (hdrop n hn)
  | tornDown => exact .inl hpass
  | delayed _ => exact .inl hpass

namespace Moment

/-- A pass that ends is not in flight any more. -/
lemma number_ne_of_endsPass {m : Moment} {n : Nat} (hend : m.EndsPass n)
    (hpossible : m.happening.isPossible m.before = true) :
    ∀ pass ∈ m.after.inFlight, pass.number ≠ n := by
  have ht : Transition m.receivers m.before m.happening m.change :=
    Pipeline.respond_transition m.receivers m.before m.happening hpossible
  rcases hend with ⟨v, hfinish⟩ | hcancel
  · rw [hfinish] at ht
    exact ht.number_ne_of_finish
  · have hafter : m.after = m.before.drop n := by rw [after, change, hcancel]; rfl
    rw [hafter]
    intro pass hpass
    simpa [Pipeline.drop] using (List.mem_filter.1 hpass).2

/-- A pass that ends has been in flight. -/
lemma exists_flying_of_endsPass {m : Moment} {n : Nat} (hend : m.EndsPass n)
    (hpossible : m.happening.isPossible m.before = true) :
    ∃ pass ∈ m.before.inFlight, pass.number = n := by
  have hsome : (m.before.pass? n).isSome = true := by
    rcases hend with ⟨v, hfinish⟩ | hcancel
    · rwa [hfinish] at hpossible
    · rwa [hcancel] at hpossible
  obtain ⟨pass, hpass⟩ := Option.isSome_iff_exists.1 hsome
  exact ⟨pass, Pipeline.mem_of_pass?_eq_some hpass⟩

end Moment

/-- A pass that a call to validate at once starts is awaited by the caller. -/
lemma Pipeline.awaitedBy_of_validateNow {r : Receivers} {p : Pipeline} {caller : Option Nat}
    {text : Option Text} {pass : Pass}
    (hpass : (p.validateNow r caller text).started = some pass) : pass.awaitedBy = caller := by
  unfold validateNow at hpass
  split at hpass
  · cases hpass
  · dsimp only at hpass
    split at hpass
    · cases hpass
    · rw [← Option.some.inj hpass]

/-- A pass that a caller waits for has been started by that caller. -/
lemma Moment.flush_of_awaited {m : Moment} {pass : Pass} {ticket : Nat}
    (hpass : m.change.started = some pass) (hticket : pass.awaitedBy = some ticket) :
    ∃ text, m.happening = .flush ticket text := by
  rw [change] at hpass
  cases hh : m.happening with
  | flush other text =>
    rw [hh] at hpass
    obtain rfl : ticket = other :=
      Option.some.inj (hticket.symm.trans (Pipeline.awaitedBy_of_validateNow hpass))
    exact ⟨text, rfl⟩
  | validateNow text =>
    rw [hh] at hpass
    cases hticket.symm.trans (Pipeline.awaitedBy_of_validateNow hpass)
  | update now text =>
    rw [hh, Pipeline.respond, Pipeline.update] at hpass
    split at hpass
    · cases hpass
    · dsimp only at hpass
      split at hpass <;> cases hpass
  | fire serial =>
    rw [hh, Pipeline.respond, Pipeline.fire] at hpass
    split at hpass
    · rw [← Option.some.inj hpass] at hticket
      cases hticket
    · cases hpass
  | finish n v =>
    rw [hh, Pipeline.respond, Pipeline.finish] at hpass
    split at hpass
    · cases hpass
    · dsimp only at hpass
      split at hpass
      · cases hpass
      · rw [(Pipeline.settle_numbers m.receivers v _).2.2.1] at hpass
        cases hpass
  | setDelay d =>
    rw [hh] at hpass
    cases hpass
  | teardown =>
    rw [hh] at hpass
    cases hpass
  | cancel n =>
    rw [hh] at hpass
    cases hpass

/-! ## Runs -/

namespace Pipeline.Run

variable {p₀ p : Pipeline} {ms : List Moment} {d : Binary64}

lemma eq_of_nil (hrun : Run p₀ ms p) (hnil : ms = []) : p = p₀ := by
  cases hrun with
  | start => rfl
  | step r h _ _ => simp at hnil

lemma transition_of_mem (hrun : Run p₀ ms p) {m : Moment} (hm : m ∈ ms) :
    Transition m.receivers m.before m.happening m.change := by
  obtain ⟨ms₁, ms₂, heq⟩ := List.append_of_mem hm
  exact respond_transition m.receivers m.before m.happening (hrun.moment ms₁ m ms₂ heq).2

/-- What comes after a moment of a run is a run as well. -/
lemma rest (hrun : Run p₀ ms p) : ∀ ms₁ m ms₂, ms = ms₁ ++ m :: ms₂ → Run m.after ms₂ p := by
  induction hrun with
  | start => simp
  | @step ms p r h _ hpossible ih =>
    intro ms₁ m ms₂ heq
    rcases List.eq_nil_or_concat ms₂ with rfl | ⟨ms₃, last, rfl⟩
    · obtain ⟨-, hm⟩ := List.append_inj' heq rfl
      rw [List.singleton_inj] at hm
      subst hm
      exact .start
    · rw [List.concat_eq_append, ← List.cons_append, ← List.append_assoc] at heq
      obtain ⟨hms, hlast⟩ := List.append_inj' heq rfl
      rw [List.singleton_inj] at hlast
      rw [List.concat_eq_append, ← hlast]
      exact .step r h (ih ms₁ m ms₃ hms) hpossible

/-- The highest number handed out never falls. -/
lemma issued_le (hrun : Run p₀ ms p) : p₀.issued ≤ p.issued := by
  induction hrun with
  | start => exact Nat.le_refl _
  | step r h _ hpossible ih =>
    exact Nat.le_trans ih (respond_transition r _ h hpossible).count.flying.1

lemma before_issued_le (hrun : Run p₀ ms p) {ms₁ ms₂ : List Moment} {m : Moment}
    (heq : ms = ms₁ ++ m :: ms₂) : m.before.issued ≤ p.issued :=
  Nat.le_trans (hrun.count_of_mem (by simp [heq])).flying.1 (hrun.rest ms₁ m ms₂ heq).issued_le

/-- A number that no pass in flight has is never one of a pass in flight again, once it has been
handed out. -/
lemma number_ne (hrun : Run p₀ ms p) {n : Nat} (hle : n ≤ p₀.issued)
    (hgone : ∀ pass ∈ p₀.inFlight, pass.number ≠ n) : ∀ pass ∈ p.inFlight, pass.number ≠ n := by
  induction hrun with
  | start => exact hgone
  | step r h hrun hpossible ih =>
    intro pass hpass
    rcases (respond_transition r _ h hpossible).count.flying.2 pass hpass with hold | hnew
    · exact ih pass hold
    · have := hrun.issued_le
      omega

/-- Such a number is never applied again. -/
lemma not_mem_applied (hrun : Run p₀ ms p) {n : Nat} (hle : n ≤ p₀.issued)
    (hgone : ∀ pass ∈ p₀.inFlight, pass.number ≠ n) : n ∉ ms.flatMap Moment.applied := by
  intro hmem
  obtain ⟨m, hm, hn⟩ := List.mem_flatMap.1 hmem
  obtain ⟨ms₁, ms₂, heq⟩ := List.append_of_mem hm
  obtain ⟨hbefore, -⟩ := hrun.moment ms₁ m ms₂ heq
  have hissued := hbefore.issued_le
  have happlies := Moment.applies_of_mem_applied hn
  rcases Moment.newest_or_blank_of_applies (hrun.count_of_mem hm) happlies with
    ⟨v, -, happlied, pass, hpass, hnumber⟩ | ⟨-, -, happlied⟩
  · rw [happlied, List.mem_singleton] at hn
    exact hbefore.number_ne hle hgone pass hpass (hnumber.trans hn.symm)
  · -- a blank text takes a number that has not been handed out before
    rw [happlied, Moment.handedOut] at hn
    split at hn
    · rw [List.mem_singleton] at hn
      omega
    · cases hn

/-- The highest number is that of a pass, or has been applied as that of a blank text. -/
lemma issued_started_or_applied (hrun : Run { delay := d } ms p) :
    p.issued = 0 ∨ p.issued ∈ ms.flatMap Moment.applied ∨
      ∃ pass ∈ ms.flatMap Moment.started, pass.number = p.issued := by
  induction hrun with
  | start => exact .inl rfl
  | @step ms p r h _ hpossible ih =>
    rw [List.flatMap_append, List.flatMap_append, List.flatMap_singleton, List.flatMap_singleton]
    have hlonger : p.issued = 0 ∨ p.issued ∈ ms.flatMap Moment.applied ++ _ ∨
        ∃ pass ∈ ms.flatMap Moment.started ++ _, pass.number = p.issued :=
      ih.imp_right (Or.imp (List.mem_append_left (Moment.applied ⟨p, r, h⟩))
        fun ⟨pass, hpass, hnumber⟩ =>
          ⟨pass, List.mem_append_left (Moment.started ⟨p, r, h⟩) hpass, hnumber⟩)
    cases (respond_transition r p h hpossible).count with
    | idle hissued _ _ _ _ =>
      rw [hissued]
      exact hlonger
    | newest _ _ _ _ hissued _ _ _ =>
      rw [hissued]
      exact hlonger
    | blank hissued _ _ hpublished hentry _ =>
      refine .inr (.inl (List.mem_append_right _ ?_))
      rw [Moment.applied_of_isEntry (m := ⟨p, r, h⟩) hentry hpublished]
      exact List.mem_singleton.2 rfl
    | pass pass hnumber hissued _ hstarted _ _ =>
      refine .inr (.inr ⟨pass, List.mem_append_right _ ?_, hnumber.trans hissued.symm⟩)
      rw [Moment.started, show Moment.change ⟨p, r, h⟩ = p.respond r h from rfl, hstarted]
      exact List.mem_singleton.2 rfl

/-- A pass that has been started is in flight, or it has ended. -/
theorem flying_or_ended (hrun : Run { delay := d } ms p) :
    ∀ pass ∈ ms.flatMap Moment.started,
      pass ∈ p.inFlight ∨ ∃ m ∈ ms, m.EndsPass pass.number := by
  induction hrun with
  | start => simp
  | @step ms p r h _ hpossible ih =>
    have ht := respond_transition r p h hpossible
    intro pass hpass
    rw [List.flatMap_append, List.flatMap_singleton, List.mem_append] at hpass
    rcases hpass with hold | hnew
    · rcases ih pass hold with hflying | ⟨m, hm, hended⟩
      · rcases ht.flying_or_ended hflying with hstill | hends
        · exact .inl hstill
        · exact .inr ⟨⟨p, r, h⟩, by simp, hends⟩
      · exact .inr ⟨m, List.mem_append_left _ hm, hended⟩
    · rw [Moment.started, Option.mem_toList] at hnew
      left
      cases ht.count with
      | pass q _ _ hflight hstarted _ _ =>
        obtain rfl : q = pass := Option.some.inj (hstarted.symm.trans hnew)
        rw [hflight]
        exact List.mem_append_right _ (List.mem_singleton.2 rfl)
      | idle _ _ hstarted _ _ => cases hstarted.symm.trans hnew
      | blank _ _ hstarted _ _ _ => cases hstarted.symm.trans hnew
      | newest _ _ _ _ _ _ hstarted _ => cases hstarted.symm.trans hnew

/-- Without teardown the pipeline stays open. -/
lemma isOpen (hrun : Run { delay := d } ms p) (hms : ∀ m ∈ ms, m.happening ≠ .teardown) :
    p.isClosed = false := by
  induction hrun with
  | start => rfl
  | @step ms p r h _ hpossible ih =>
    have hopen := ih fun m hm => hms m (List.mem_append_left _ hm)
    have hteardown : h ≠ .teardown := hms ⟨p, r, h⟩ (by simp)
    exact ((respond_transition r p h hpossible).keeps_open hopen hteardown).1

/-- A pass in flight has been started. -/
lemma started_of_flying (hrun : Run { delay := d } ms p) :
    ∀ pass ∈ p.inFlight, pass ∈ ms.flatMap Moment.started := by
  induction hrun with
  | start => simp
  | @step ms p r h _ hpossible ih =>
    intro pass hpass
    rw [List.flatMap_append, List.flatMap_singleton, List.mem_append]
    cases (respond_transition r p h hpossible).count with
    | idle _ hflight _ _ _ => exact .inl (ih pass (hflight hpass))
    | blank _ hflight _ _ _ _ =>
      rw [hflight] at hpass
      exact .inl (ih pass hpass)
    | newest _ _ _ _ _ hflight _ _ =>
      rw [hflight] at hpass
      exact .inl (ih pass (List.mem_filter.1 hpass).1)
    | pass new _ _ hflight hstarted _ _ =>
      rw [hflight, List.mem_append, List.mem_singleton] at hpass
      rcases hpass with hold | rfl
      · exact .inl (ih pass hold)
      · right
        rw [Moment.started, show Moment.change ⟨p, r, h⟩ = p.respond r h from rfl, hstarted]
        exact List.mem_singleton.2 rfl

/-- A pass that ends has a number that has been handed out before. -/
lemma le_before_issued (hrun : Run { delay := d } ms p) {ms₁ ms₂ : List Moment} {m : Moment}
    (heq : ms = ms₁ ++ m :: ms₂) {n : Nat} (hends : m.EndsPass n) : n ≤ m.before.issued := by
  obtain ⟨hbefore, hpossible⟩ := hrun.moment ms₁ m ms₂ heq
  obtain ⟨pass, hpass, rfl⟩ := m.exists_flying_of_endsPass hends hpossible
  exact hbefore.numbering.flying_le pass hpass

lemma le_after_issued (hrun : Run { delay := d } ms p) {ms₁ ms₂ : List Moment} {m : Moment}
    (heq : ms = ms₁ ++ m :: ms₂) {n : Nat} (hends : m.EndsPass n) : n ≤ m.after.issued :=
  Nat.le_trans (hrun.le_before_issued heq hends) (hrun.count_of_mem (by simp [heq])).flying.1

lemma le_issued_of_endsPass (hrun : Run { delay := d } ms p) {m : Moment} (hm : m ∈ ms) {n : Nat}
    (hends : m.EndsPass n) : n ≤ p.issued := by
  obtain ⟨ms₁, ms₂, heq⟩ := List.append_of_mem hm
  exact Nat.le_trans (hrun.le_before_issued heq hends) (hrun.before_issued_le heq)

/-- A pass that has ended is not in flight any more. -/
lemma number_ne_of_endsPass (hrun : Run { delay := d } ms p) {m : Moment} (hm : m ∈ ms) {n : Nat}
    (hends : m.EndsPass n) : ∀ pass ∈ p.inFlight, pass.number ≠ n := by
  obtain ⟨ms₁, ms₂, heq⟩ := List.append_of_mem hm
  exact (hrun.rest ms₁ m ms₂ heq).number_ne (hrun.le_after_issued heq hends)
    (m.number_ne_of_endsPass hends (hrun.moment ms₁ m ms₂ heq).2)

/-- A pass that ends has its outcome applied at that moment, or never. -/
lemma mem_applied_iff_of_endsPass (hrun : Run { delay := d } ms p) {ms₁ ms₂ : List Moment}
    {m : Moment} (heq : ms = ms₁ ++ m :: ms₂) {n : Nat} (hends : m.EndsPass n) :
    n ∈ ms.flatMap Moment.applied ↔ n ∈ m.applied := by
  obtain ⟨hbefore, hpossible⟩ := hrun.moment ms₁ m ms₂ heq
  obtain ⟨pass, hpass, hnumber⟩ := m.exists_flying_of_endsPass hends hpossible
  have hearlier : n ∉ ms₁.flatMap Moment.applied :=
    hnumber ▸ hbefore.numbering.unapplied pass hpass
  have hlater : n ∉ ms₂.flatMap Moment.applied :=
    (hrun.rest ms₁ m ms₂ heq).not_mem_applied (hrun.le_after_issued heq hends)
      (m.number_ne_of_endsPass hends hpossible)
  rw [heq, List.flatMap_append, List.flatMap_cons, List.mem_append, List.mem_append]
  simp only [hearlier, hlater, or_false, false_or]

/-- A pass that ends with a verdict has its outcome applied if it is the newest one then and the
pipeline is open, and only then. -/
theorem mem_applied_iff (hrun : Run { delay := d } ms p) {ms₁ ms₂ : List Moment} {m : Moment}
    (heq : ms = ms₁ ++ m :: ms₂) {n : Nat} {v : Verdict} (hfinish : m.happening = .finish n v) :
    n ∈ ms.flatMap Moment.applied ↔ m.before.issued = n ∧ m.before.isClosed = false := by
  have ht := hrun.transition_of_mem (m := m) (by simp [heq])
  rw [hfinish] at ht
  rw [hrun.mem_applied_iff_of_endsPass heq (.inl ⟨v, hfinish⟩)]
  constructor
  · intro hmem
    cases hpublished : m.change.published with
    | none =>
      rw [Moment.applied, hpublished] at hmem
      cases hmem
    | some markers =>
      obtain ⟨-, hopen, ⟨w, hnewest, -⟩ | ⟨hentry, -⟩⟩ := ht.published_cases hpublished
      · cases hnewest
        exact ⟨rfl, hopen⟩
      · cases hentry
  · rintro ⟨rfl, hopen⟩
    rw [Moment.applied, (ht.outcome_of_newest hopen).1, hfinish]
    exact List.mem_singleton.2 rfl

end Pipeline.Run

end Mermaid
