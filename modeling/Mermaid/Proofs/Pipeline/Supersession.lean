import Mermaid.Proofs.Pipeline.Run

/-!
# Newer work supersedes older work

Numbers are handed out to passes and to blank texts. They grow along every run, and so do the
numbers of the outcomes that are applied: once a number has been handed out, no pass with a lower
one is applied any more.

The invariant is `Numbering`. It bounds all numbers by the highest one issued, and keeps the numbers
of passes in flight apart from those already applied.
-/

namespace Mermaid

namespace Moment

/-- The number handed out at a moment, if there is one. -/
def handedOut (m : Moment) : List Nat :=
  if m.before.issued < m.after.issued then [m.after.issued] else []

/-- The pass started at a moment, if there is one. -/
def started (m : Moment) : List Pass := m.change.started.toList

/-- Whether an outcome is applied at a moment: markers are published or replaced. -/
def Applies (m : Moment) : Prop :=
  m.change.published ≠ none ∨ m.after.markers ≠ m.before.markers

/-- The number of the outcome that is published at a moment, if there is one: that of the pass that
ends, or else the one that a blank text has just taken. -/
def applied (m : Moment) : List Nat :=
  match m.change.published, m.happening with
  | none, _ => []
  | some _, .finish n _ => [n]
  | some _, _ => [m.after.issued]

end Moment

/-! ## Numbers at one moment -/

/-- How the numbers of a pipeline go on when something happens to it. -/
inductive Count (p : Pipeline) (h : Happening) (c : Change) : Prop
  /-- No number is handed out and nothing is applied; passes may have ended. -/
  | idle : c.pipeline.issued = p.issued → c.pipeline.inFlight ⊆ p.inFlight → c.started = none →
      c.published = none → c.pipeline.markers = p.markers → Count p h c
  /-- A blank text takes a number, and is applied at once. -/
  | blank : c.pipeline.issued = p.issued + 1 → c.pipeline.inFlight = p.inFlight →
      c.started = none → c.published = some [] → h.isEntry = true →
      Text.isBlankText (h.text?.getD p.text) = true → Count p h c
  /-- A pass takes a number. -/
  | pass (pass : Pass) : pass.number = p.issued + 1 → c.pipeline.issued = p.issued + 1 →
      c.pipeline.inFlight = p.inFlight ++ [pass] → c.started = some pass → c.published = none →
      c.pipeline.markers = p.markers → Count p h c
  /-- The newest pass ends, and is applied. -/
  | newest (v : Verdict) (markers : List Marker) : h = .finish p.issued v →
      (∃ pass ∈ p.inFlight, pass.number = p.issued) → c.pipeline.issued = p.issued →
      c.pipeline.inFlight = p.inFlight.filter (fun pass => pass.number ≠ p.issued) →
      c.started = none → c.published = some markers → Count p h c

/-- Taking an outcome hands out no number, and starts and ends no pass. -/
lemma Pipeline.settle_numbers (r : Receivers) (v : Verdict) (p : Pipeline) :
    (p.settle r v).pipeline.issued = p.issued ∧ (p.settle r v).pipeline.inFlight = p.inFlight ∧
      (p.settle r v).started = none ∧ ∃ markers, (p.settle r v).published = some markers := by
  have hsettled : ∀ phase, (p.settled phase).issued = p.issued ∧
      (p.settled phase).inFlight = p.inFlight := by
    intro phase
    unfold settled
    split <;> exact ⟨rfl, rfl⟩
  cases v with
  | ok => exact ⟨(hsettled _).1, (hsettled _).2, rfl, _, rfl⟩
  | error f => exact ⟨(hsettled _).1, (hsettled _).2, rfl, _, rfl⟩

/-- Whatever happens, the numbers go on in one of the four ways. -/
lemma Transition.count {r : Receivers} {p : Pipeline} {h : Happening} {c : Change}
    (ht : Transition r p h c) : Count p h c := by
  have hdrop : ∀ n, (p.drop n).inFlight ⊆ p.inFlight := fun n => List.filter_sublist.subset
  cases ht with
  | ignored _ _ _ => exact .idle rfl (List.Subset.refl _) rfl rfl rfl
  | cleared _ _ hentry hblank => exact .blank rfl rfl rfl rfl hentry hblank
  | armed _ _ _ _ _ => exact .idle rfl (List.Subset.refl _) rfl rfl rfl
  | started _ _ _ _ _ => exact .pass _ rfl rfl rfl rfl rfl rfl
  | fired _ _ => exact .pass _ rfl rfl rfl rfl rfl rfl
  | settled n v pass hmem hnumber _ hnew =>
    subst hnew
    obtain ⟨hissued, hflight, hstarted, markers, hpublished⟩ :=
      Pipeline.settle_numbers r v (p.drop p.issued)
    exact .newest v markers rfl ⟨pass, hmem, hnumber⟩ hissued hflight hstarted hpublished
  | outdated n _ _ => exact .idle rfl (hdrop n) rfl rfl rfl
  | cancelled n => exact .idle rfl (hdrop n) rfl rfl rfl
  | tornDown => exact .idle rfl (List.Subset.refl _) rfl rfl rfl
  | delayed _ => exact .idle rfl (List.Subset.refl _) rfl rfl rfl

/-! ## Numbers along a run -/

/-- What the numbers of a run have to do with the pipeline it leads to. -/
structure Numbering (ms : List Moment) (p : Pipeline) : Prop where
  handed_le : ∀ n ∈ ms.flatMap Moment.handedOut, n ≤ p.issued
  applied_le : ∀ n ∈ ms.flatMap Moment.applied, n ≤ p.issued
  flying_le : ∀ pass ∈ p.inFlight, pass.number ≤ p.issued
  /-- A pass in flight has not been applied. -/
  unapplied : ∀ pass ∈ p.inFlight, pass.number ∉ ms.flatMap Moment.applied
  handed_sorted : (ms.flatMap Moment.handedOut).Pairwise (· < ·)
  applied_sorted : (ms.flatMap Moment.applied).Pairwise (· < ·)

/-- A number above all others keeps a list of numbers sorted. -/
private lemma pairwise_lt_concat {ns : List Nat} {n : Nat} (hsorted : ns.Pairwise (· < ·))
    (hlt : ∀ a ∈ ns, a < n) : (ns ++ [n]).Pairwise (· < ·) := by
  rw [List.pairwise_append]
  refine ⟨hsorted, List.pairwise_singleton _ _, ?_⟩
  intro a ha b hb
  rw [List.mem_singleton] at hb
  rw [hb]
  exact hlt a ha

/-- A number not below any other bounds a list of numbers that it is put behind. -/
private lemma le_concat {ns : List Nat} {k n : Nat} (hle : ∀ a ∈ ns, a ≤ k) (hk : k ≤ n) :
    ∀ a ∈ ns ++ [n], a ≤ n := by
  intro a ha
  rcases List.mem_append.1 ha with hold | hnew
  · exact Nat.le_trans (hle a hold) hk
  · rw [List.mem_singleton] at hnew
    exact Nat.le_of_eq hnew

namespace Numbering

/-- A fresh pipeline has no numbers. -/
lemma start (d : Binary64) : Numbering [] { delay := d } := by
  constructor <;> simp

/-- Whatever happens keeps the numbers in order. -/
lemma step {ms : List Moment} {m : Moment} (hn : Numbering ms m.before)
    (hc : Count m.before m.happening m.change) : Numbering (ms ++ [m]) m.after := by
  have hafter : m.change.pipeline = m.after := rfl
  have happlied_of_none : m.change.published = none → m.applied = [] := by
    intro h
    rw [Moment.applied, h]
  cases hc with
  | idle hissued hflight _ hpublished _ =>
    rw [hafter] at hissued hflight
    have hhanded : m.handedOut = [] := by simp [Moment.handedOut, hissued]
    have happlied := happlied_of_none hpublished
    constructor <;> simp only [List.flatMap_append, List.flatMap_singleton, hhanded, happlied,
      List.append_nil, hissued]
    · exact hn.handed_le
    · exact hn.applied_le
    · exact fun pass hpass => hn.flying_le pass (hflight hpass)
    · exact fun pass hpass => hn.unapplied pass (hflight hpass)
    · exact hn.handed_sorted
    · exact hn.applied_sorted
  | blank hissued hflight _ hpublished hentry _ =>
    rw [hafter] at hissued hflight
    have hhanded : m.handedOut = [m.before.issued + 1] := by simp [Moment.handedOut, hissued]
    have happlied : m.applied = [m.before.issued + 1] := by
      rw [Moment.applied, hpublished]
      cases hh : m.happening <;> simp_all [Happening.isEntry]
    constructor <;> simp only [List.flatMap_append, List.flatMap_singleton, hhanded, happlied,
      hissued, hflight]
    · exact le_concat hn.handed_le (Nat.le_succ _)
    · exact le_concat hn.applied_le (Nat.le_succ _)
    · exact fun pass hpass => Nat.le_succ_of_le (hn.flying_le pass hpass)
    · intro pass hpass hmem
      rcases List.mem_append.1 hmem with hold | hnew
      · exact hn.unapplied pass hpass hold
      · -- the number is new, and no pass in flight can have it
        have hle := hn.flying_le pass hpass
        rw [List.mem_singleton] at hnew
        omega
    · exact pairwise_lt_concat hn.handed_sorted fun a ha => Nat.lt_succ_of_le (hn.handed_le a ha)
    · exact pairwise_lt_concat hn.applied_sorted fun a ha => Nat.lt_succ_of_le (hn.applied_le a ha)
  | pass pass hnumber hissued hflight _ hpublished _ =>
    rw [hafter] at hissued hflight
    have hhanded : m.handedOut = [m.before.issued + 1] := by simp [Moment.handedOut, hissued]
    have happlied := happlied_of_none hpublished
    constructor <;> simp only [List.flatMap_append, List.flatMap_singleton, hhanded, happlied,
      hissued, hflight, List.append_nil]
    · exact le_concat hn.handed_le (Nat.le_succ _)
    · exact fun n hmem => Nat.le_succ_of_le (hn.applied_le n hmem)
    · intro q hq
      rcases List.mem_append.1 hq with hold | hnew
      · exact Nat.le_succ_of_le (hn.flying_le q hold)
      · rw [List.mem_singleton] at hnew
        rw [hnew]
        exact Nat.le_of_eq hnumber
    · intro q hq hmem
      rcases List.mem_append.1 hq with hold | hnew
      · exact hn.unapplied q hold hmem
      · -- the new pass has a number above all applied ones
        rw [List.mem_singleton] at hnew
        rw [hnew] at hmem
        have hle := hn.applied_le _ hmem
        omega
    · exact pairwise_lt_concat hn.handed_sorted fun a ha => Nat.lt_succ_of_le (hn.handed_le a ha)
    · exact hn.applied_sorted
  | newest v markers hfinish hflying hissued hflight _ hpublished =>
    rw [hafter] at hissued hflight
    obtain ⟨flying, hmem, hnumber⟩ := hflying
    have hhanded : m.handedOut = [] := by simp [Moment.handedOut, hissued]
    have happlied : m.applied = [m.before.issued] := by rw [Moment.applied, hpublished, hfinish]
    -- the pass that ends was in flight until now, so its number has not been applied before
    have hbelow : ∀ a ∈ ms.flatMap Moment.applied, a < m.before.issued := by
      intro a ha
      have hle := hn.applied_le a ha
      have hne : a ≠ m.before.issued := by
        intro heq
        rw [heq, ← hnumber] at ha
        exact hn.unapplied flying hmem ha
      omega
    have hstill : ∀ pass ∈ m.after.inFlight,
        pass ∈ m.before.inFlight ∧ pass.number ≠ m.before.issued := by
      intro pass hpass
      rw [hflight, List.mem_filter] at hpass
      exact ⟨hpass.1, by simpa using hpass.2⟩
    constructor <;> simp only [List.flatMap_append, List.flatMap_singleton, hhanded, happlied,
      hissued, List.append_nil]
    · exact hn.handed_le
    · exact le_concat hn.applied_le (Nat.le_refl _)
    · exact fun pass hpass => hn.flying_le pass (hstill pass hpass).1
    · intro pass hpass hmem
      rcases List.mem_append.1 hmem with hold | hnew
      · exact hn.unapplied pass (hstill pass hpass).1 hold
      · rw [List.mem_singleton] at hnew
        exact (hstill pass hpass).2 hnew
    · exact hn.handed_sorted
    · exact pairwise_lt_concat hn.applied_sorted hbelow

end Numbering

/-! ## Numbers along a run -/

namespace Pipeline.Run

/-- A moment of a run comes after a shorter run, and was possible then. -/
lemma moment {p₀ p : Pipeline} {ms : List Moment} (hrun : Run p₀ ms p) :
    ∀ ms₁ m ms₂, ms = ms₁ ++ m :: ms₂ →
      Run p₀ ms₁ m.before ∧ m.happening.isPossible m.before = true := by
  induction hrun with
  | start => simp
  | @step ms p r h hrun hpossible ih =>
    intro ms₁ m ms₂ heq
    -- the moment is the last one, or it lies in the shorter run
    rcases List.eq_nil_or_concat ms₂ with rfl | ⟨ms₃, last, rfl⟩
    · obtain ⟨rfl, hm⟩ := List.append_inj' heq rfl
      rw [List.singleton_inj] at hm
      subst hm
      exact ⟨hrun, hpossible⟩
    · rw [List.concat_eq_append, ← List.cons_append, ← List.append_assoc] at heq
      exact ih ms₁ m ms₃ (List.append_inj' heq rfl).1

lemma count_of_mem {p₀ p : Pipeline} {ms : List Moment} (hrun : Run p₀ ms p) {m : Moment}
    (hm : m ∈ ms) : Count m.before m.happening m.change := by
  obtain ⟨ms₁, ms₂, heq⟩ := List.append_of_mem hm
  exact (respond_transition _ _ _ (hrun.moment ms₁ m ms₂ heq).2).count

/-- Along every run the numbers are in order. -/
lemma numbering {d : Binary64} {ms : List Moment} {p : Pipeline}
    (hrun : Run { delay := d } ms p) : Numbering ms p := by
  induction hrun with
  | start => exact Numbering.start d
  | step r h _ hpossible ih =>
    exact Numbering.step (m := ⟨_, r, h⟩) ih
      (respond_transition r _ h hpossible).count

end Pipeline.Run

namespace Moment

/-- A pass that is started has the number handed out then. -/
lemma handedOut_of_started {m : Moment} (hc : Count m.before m.happening m.change) {pass : Pass}
    (hpass : pass ∈ m.started) : m.handedOut = [pass.number] := by
  rw [started, Option.mem_toList] at hpass
  cases hc with
  | idle _ _ hstarted => simp [hstarted] at hpass
  | blank _ _ hstarted => simp [hstarted] at hpass
  | newest _ _ _ _ _ _ hstarted => simp [hstarted] at hpass
  | pass q hnumber hissued _ hstarted =>
    obtain rfl : q = pass := by simpa [hstarted] using hpass
    have hafter : m.after.issued = m.before.issued + 1 := hissued
    simp [handedOut, hafter, hnumber]

/-- An outcome is applied when the newest pass ends, or when a blank text takes a number. -/
lemma newest_or_blank_of_applies {m : Moment} (hc : Count m.before m.happening m.change)
    (happlies : m.Applies) :
    (∃ v, m.happening = .finish m.before.issued v ∧ m.applied = [m.before.issued] ∧
        ∃ pass ∈ m.before.inFlight, pass.number = m.before.issued) ∨
      (m.happening.isEntry = true ∧
        Text.isBlankText (m.happening.text?.getD m.before.text) = true ∧
        m.applied = m.handedOut) := by
  cases hc with
  | idle _ _ _ hpublished hmarkers => simp [Applies, after, hpublished, hmarkers] at happlies
  | pass _ _ _ _ _ hpublished hmarkers =>
    simp [Applies, after, hpublished, hmarkers] at happlies
  | newest v _ hfinish hflying _ _ _ hpublished =>
    exact .inl ⟨v, hfinish, by rw [applied, hpublished, hfinish], hflying⟩
  | blank hissued _ _ hpublished hentry hblank =>
    have hafter : m.after.issued = m.before.issued + 1 := hissued
    refine .inr ⟨hentry, hblank, ?_⟩
    rw [applied, hpublished, handedOut, if_pos (by omega)]
    cases hh : m.happening <;> simp_all [Happening.isEntry]

end Moment

namespace Pipeline.Run

/-- The numbers of the passes that are started are among those handed out, in the same order. -/
lemma started_sublist {p₀ p : Pipeline} {ms : List Moment} (hrun : Run p₀ ms p) :
    ((ms.flatMap Moment.started).map Pass.number).Sublist (ms.flatMap Moment.handedOut) := by
  rw [List.map_flatMap]
  have hmoment : ∀ m ∈ ms, (m.started.map Pass.number).Sublist m.handedOut := by
    intro m hm
    cases hs : m.change.started with
    | none => simp [Moment.started, hs]
    | some pass =>
      have hpass : pass ∈ m.started := by simp [Moment.started, hs]
      rw [Moment.handedOut_of_started (hrun.count_of_mem hm) hpass]
      simp [Moment.started, hs]
  -- each moment hands out the number of the pass it starts, so the moments line up one by one
  clear hrun
  induction ms with
  | nil => simp
  | cons m ms ih =>
    rw [List.flatMap_cons, List.flatMap_cons]
    exact (hmoment m List.mem_cons_self).append
      (ih fun n hn => hmoment n (List.mem_cons_of_mem m hn))

/-- **Newer work supersedes older work.** Along every run the numbers handed out grow, no two passes
share one, and every pass has the number handed out when it starts. An outcome is applied only when
the pass with the highest number ends, or when a blank text takes a number; the numbers of the
outcomes applied grow; and a pass that is applied has a number as high as all handed out before. -/
theorem newer_supersedes_older {d : Binary64} {ms : List Moment} {p : Pipeline}
    (hrun : Run { delay := d } ms p) :
    (ms.flatMap Moment.handedOut).Pairwise (· < ·) ∧
      ((ms.flatMap Moment.started).map Pass.number).Pairwise (· < ·) ∧
      (∀ m ∈ ms, ∀ pass ∈ m.started, m.handedOut = [pass.number]) ∧
      (∀ m ∈ ms, m.Applies →
        (∃ v, m.happening = .finish m.before.issued v ∧ m.applied = [m.before.issued] ∧
            ∃ pass ∈ m.before.inFlight, pass.number = m.before.issued) ∨
          (m.happening.isEntry = true ∧
            Text.isBlankText (m.happening.text?.getD m.before.text) = true ∧
            m.applied = m.handedOut)) ∧
      (ms.flatMap Moment.applied).Pairwise (· < ·) ∧
      ∀ ms₁ m ms₂, ms = ms₁ ++ m :: ms₂ → ∀ n v, m.happening = .finish n v → m.Applies →
        ∀ k ∈ ms₁.flatMap Moment.handedOut, k ≤ n := by
  have hnumbers := hrun.numbering
  refine ⟨hnumbers.handed_sorted, hnumbers.handed_sorted.sublist hrun.started_sublist, ?_, ?_,
    hnumbers.applied_sorted, ?_⟩
  · intro m hm pass hpass
    exact Moment.handedOut_of_started (hrun.count_of_mem hm) hpass
  · intro m hm happlies
    exact Moment.newest_or_blank_of_applies (hrun.count_of_mem hm) happlies
  · intro ms₁ m ms₂ heq n v hfinish happlies k hk
    have hm : m ∈ ms := by simp [heq]
    -- the pass that ends has the highest number there is at the moment before it
    have hle : k ≤ m.before.issued := (hrun.moment ms₁ m ms₂ heq).1.numbering.handed_le k hk
    rcases Moment.newest_or_blank_of_applies (hrun.count_of_mem hm) happlies with
      ⟨_, hnewest, _⟩ | ⟨hentry, _⟩
    · rw [hfinish] at hnewest
      cases hnewest
      exact hle
    · rw [hfinish] at hentry
      cases hentry

/-- The first pass is overtaken by a blank text and by a second pass, and ends while that one is in
flight: its outcome is dropped. -/
theorem newer_supersedes_older_overtaken :
    ∃ ms p, Run { delay := .zero false } ms p ∧ ms.flatMap Moment.handedOut = [1, 2, 3] ∧
      ms.flatMap Moment.applied = [2, 3] ∧ (ms.flatMap Moment.applied).Pairwise (· < ·) := by
  have hrun := (Run.start : Run { delay := .zero false } [] _)
    |>.step {} (.update 0 ['a']) rfl
    |>.step {} (.fire 0) rfl
    |>.step {} (.validateNow (some [' '])) rfl
    |>.step {} (.flush 7 (some ['b'])) rfl
    |>.step {} (.finish 1 (.ok ())) rfl
    |>.step {} (.finish 3 (.error (.unavailable "gone"))) rfl
    |>.step {} .teardown rfl
  exact ⟨_, _, hrun, rfl, rfl, (newer_supersedes_older hrun).2.2.2.2.1⟩

end Pipeline.Run

end Mermaid
