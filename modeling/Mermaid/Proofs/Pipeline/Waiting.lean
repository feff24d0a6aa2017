import Mermaid.Proofs.Pipeline.Passes
import Mermaid.Proofs.Pipeline.Records

/-!
# What a caller gets who waits for a pass

A caller who flushes gets the markers that the pipeline has when the pass of the caller has ended.
They are those of the outcome applied last. This is the outcome of that pass if it was the newest
one when it ended, or a newer outcome if one has been applied by then. Otherwise a newer pass is
still in flight, and the caller gets the markers of an older outcome, or none if there is no such
outcome.
-/

namespace Mermaid

/-- Whether it is neither the end of the pipeline nor that of a pass without an outcome. -/
def Happening.isCalm : Happening → Bool
  | .teardown | .cancel _ => false
  | _ => true

lemma Happening.ne_teardown_of_isCalm {h : Happening} (hcalm : h.isCalm = true) :
    h ≠ .teardown := by
  rintro rfl
  cases hcalm

lemma Happening.ne_cancel_of_isCalm {h : Happening} (hcalm : h.isCalm = true) (n : Nat) :
    h ≠ .cancel n := by
  rintro rfl
  cases hcalm

/-- Whether a run has come to the outcome of a pass, or to a newer one. -/
def ShowsSince (ms : List Moment) (n : Nat) (markers : List Marker) : Prop :=
  ∃ k, n ≤ k ∧ lastOutcome ms = some (k, markers)

/-! ## The outcome applied last -/

lemma map_fst_outcomes (ms : List Moment) :
    (ms.flatMap Moment.outcomes).map Prod.fst = ms.flatMap Moment.applied := by
  rw [List.map_flatMap]
  congr 1
  funext m
  rw [Moment.outcomes, List.map_map]
  exact List.map_id _

lemma lastOutcome_concat (ms : List Moment) (m : Moment) :
    lastOutcome (ms ++ [m]) = m.outcomes.getLast?.or (lastOutcome ms) := by
  rw [lastOutcome, List.flatMap_append, List.flatMap_singleton, List.getLast?_append]
  rfl

/-- The markers that a moment yields under a number: those of the pass that ends, or those of a
blank text, of which there are none. -/
inductive Moment.Yields (m : Moment) (k : Nat) : List Marker → Prop
  | pass (v : Verdict) : m.happening = .finish k v → Yields m k (Showing.ofVerdict v).markers
  | blank : m.happening.isEntry = true →
      Text.isBlankText (m.happening.text?.getD m.before.text) = true → m.handedOut = [k] →
      Yields m k []

/-- An outcome is that of the pass that ends, or that of a blank text. -/
lemma Moment.yields_of_mem_outcomes {m : Moment}
    (ht : Transition m.receivers m.before m.happening m.change) {k : Nat} {markers : List Marker}
    (h : (k, markers) ∈ m.outcomes) : m.Yields k markers := by
  obtain ⟨n, hn, heq⟩ := List.mem_map.1 h
  obtain ⟨rfl, rfl⟩ := Prod.mk.inj heq
  cases hpublished : m.change.published with
  | none =>
    rw [applied, hpublished] at hn
    cases hn
  | some markers =>
    obtain ⟨hmarkers, -, ⟨v, hfinish, rfl⟩ | ⟨hentry, hblank, hissued, rfl⟩⟩ :=
      ht.published_cases hpublished
    · have happlied : m.applied = [m.before.issued] := by rw [applied, hpublished, hfinish]
      rw [happlied, List.mem_singleton] at hn
      rw [hn, show m.after.markers = (Showing.ofVerdict v).markers from hmarkers]
      exact .pass v hfinish
    · have hafter : m.after.issued = m.before.issued + 1 := hissued
      rw [applied_of_isEntry hentry hpublished, List.mem_singleton] at hn
      rw [show m.after.markers = [] from hmarkers]
      exact .blank hentry hblank (by rw [handedOut, if_pos (by omega), hn])

/-- In a list of numbers that grow, the last one is the highest. -/
private lemma le_of_getLast? {ns : List Nat} (hsorted : ns.Pairwise (· < ·)) {k : Nat}
    (hk : ns.getLast? = some k) : ∀ a ∈ ns, a ≤ k := by
  obtain ⟨front, rfl⟩ := List.getLast?_eq_some_iff.1 hk
  intro a ha
  rcases List.mem_append.1 ha with hold | hlast
  · exact Nat.le_of_lt ((List.pairwise_append.1 hsorted).2.2 a hold k (List.mem_singleton.2 rfl))
  · exact Nat.le_of_eq (List.mem_singleton.1 hlast)

namespace Pipeline.Run

variable {p : Pipeline} {ms : List Moment} {d : Binary64}

/-- The markers are those of the outcome applied last; at first there are none. -/
lemma markers_eq (hrun : Run { delay := d } ms p) :
    p.markers = ((lastOutcome ms).map Prod.snd).getD [] := by
  induction hrun with
  | start => rfl
  | @step ms p r h _ hpossible ih =>
    rw [lastOutcome_concat]
    have hc : Count p h (Moment.change ⟨p, r, h⟩) := (respond_transition r p h hpossible).count
    -- either nothing is applied and the markers stay, or one outcome is
    have happlied : ∀ k, Moment.applied ⟨p, r, h⟩ = [k] → (p.respond r h).pipeline.markers =
        (((Moment.outcomes ⟨p, r, h⟩).getLast?.or (lastOutcome ms)).map Prod.snd).getD [] := by
      intro k hk
      rw [Moment.outcomes, hk]
      rfl
    have hquiet : (Moment.change ⟨p, r, h⟩).published = none →
        (p.respond r h).pipeline.markers = p.markers → (p.respond r h).pipeline.markers =
        (((Moment.outcomes ⟨p, r, h⟩).getLast?.or (lastOutcome ms)).map Prod.snd).getD [] := by
      intro hpublished hmarkers
      rw [Moment.outcomes, Moment.applied, hpublished, hmarkers, ih]
      rfl
    cases hc with
    | idle _ _ _ hpublished hmarkers => exact hquiet hpublished hmarkers
    | pass _ _ _ _ _ hpublished hmarkers => exact hquiet hpublished hmarkers
    | blank _ _ _ hpublished hentry _ =>
      exact happlied _ (Moment.applied_of_isEntry (m := ⟨p, r, h⟩) hentry hpublished)
    | newest v markers hfinish _ _ _ _ hpublished =>
      exact happlied p.issued (by rw [Moment.applied, hpublished, hfinish])

/-- Once a number has been applied, the outcome applied last is at least as new. -/
lemma showsSince_of_mem (hrun : Run { delay := d } ms p) {n : Nat}
    (hn : n ∈ ms.flatMap Moment.applied) : ShowsSince ms n p.markers := by
  have hlast : (lastOutcome ms).map Prod.fst = (ms.flatMap Moment.applied).getLast? := by
    rw [← map_fst_outcomes, List.getLast?_map]
    rfl
  cases hk : lastOutcome ms with
  | none =>
    rw [hk, Option.map_none, eq_comm, List.getLast?_eq_none_iff] at hlast
    rw [hlast] at hn
    cases hn
  | some o =>
    have hmarkers := hrun.markers_eq
    rw [hk, Option.map_some] at hlast hmarkers
    refine ⟨o.1, le_of_getLast? hrun.numbering.applied_sorted hlast.symm n hn, ?_⟩
    rw [hmarkers, Option.getD_some, hk]

/-- A number whose outcome is the one applied last has been applied. -/
lemma mem_applied_of_lastOutcome {k : Nat} {markers : List Marker}
    (hk : lastOutcome ms = some (k, markers)) : k ∈ ms.flatMap Moment.applied := by
  rw [← map_fst_outcomes]
  exact List.mem_map_of_mem (List.mem_of_getLast? hk)

/-- When a pass has ended, its own outcome or a newer one is shown if it was the newest pass then or
a newer number has been applied since, and only then. -/
lemma showsSince_iff (hrun : Run { delay := d } ms p)
    (hopen : ∀ m ∈ ms, m.happening ≠ .teardown) {ms₁ ms₂ : List Moment} {m : Moment}
    (heq : ms = ms₁ ++ m :: ms₂) {n : Nat} {v : Verdict} (hfinish : m.happening = .finish n v) :
    ShowsSince ms n p.markers ↔
      m.before.issued = n ∨ ∃ k ∈ ms.flatMap Moment.applied, n < k := by
  have hbefore : m.before.isClosed = false :=
    (hrun.moment ms₁ m ms₂ heq).1.isOpen fun m' hm' => hopen m' (by simp [heq, hm'])
  constructor
  · rintro ⟨k, hle, hk⟩
    have happlied := mem_applied_of_lastOutcome hk
    rcases Nat.lt_or_eq_of_le hle with hlt | rfl
    · exact .inr ⟨k, happlied, hlt⟩
    · exact .inl ((hrun.mem_applied_iff heq hfinish).1 happlied).1
  · rintro (hnewest | ⟨k, happlied, hlt⟩)
    · exact hrun.showsSince_of_mem ((hrun.mem_applied_iff heq hfinish).2 ⟨hnewest, hbefore⟩)
    · obtain ⟨k', hle, hk'⟩ := hrun.showsSince_of_mem happlied
      exact ⟨k', by omega, hk'⟩

/-- When a pass has ended and neither its own outcome nor a newer one is shown, the newest pass is
still in flight. -/
lemma flying_of_not_showsSince (hrun : Run { delay := d } ms p)
    (hcalm : ∀ m ∈ ms, m.happening.isCalm = true) {ms₁ ms₂ : List Moment} {m : Moment}
    (heq : ms = ms₁ ++ m :: ms₂) {n : Nat} {v : Verdict} (hfinish : m.happening = .finish n v)
    (hnot : ¬ShowsSince ms n p.markers) :
    n < p.issued ∧ ∃ pass ∈ p.inFlight, pass.number = p.issued := by
  have hopen : ∀ m ∈ ms, m.happening ≠ .teardown :=
    fun m hm => Happening.ne_teardown_of_isCalm (hcalm m hm)
  rw [hrun.showsSince_iff hopen heq hfinish, not_or] at hnot
  obtain ⟨hstale, hnone⟩ := hnot
  have hlt : n < p.issued := by
    have hle := hrun.le_before_issued heq (.inl ⟨v, hfinish⟩)
    have hissued := hrun.before_issued_le heq
    omega
  refine ⟨hlt, ?_⟩
  rcases hrun.issued_started_or_applied with hzero | happlied | ⟨newest, hstarted, hnewest⟩
  · omega
  · exact absurd ⟨p.issued, happlied, hlt⟩ hnone
  · rcases hrun.flying_or_ended newest hstarted with hflying | ⟨m', hm', hends⟩
    · exact ⟨newest, hflying, hnewest⟩
    · exfalso
      rw [hnewest] at hends
      obtain ⟨ms₃, ms₄, heq'⟩ := List.append_of_mem hm'
      rcases hends with ⟨w, hfinish'⟩ | hcancel
      · -- it was the newest pass when it ended, so its outcome has been applied
        have hle := hrun.le_before_issued heq' (.inl ⟨w, hfinish'⟩)
        have hissued := hrun.before_issued_le heq'
        have happlied := (hrun.mem_applied_iff heq' hfinish').2 ⟨by omega,
          (hrun.moment ms₃ m' ms₄ heq').1.isOpen fun m'' hm'' => hopen m'' (by simp [heq', hm''])⟩
        exact hnone ⟨p.issued, happlied, hlt⟩
      · exact Happening.ne_cancel_of_isCalm (hcalm m' hm') _ hcancel

/-- **What a caller gets who waits for a pass.** No pass is cancelled, and the pipeline is not torn
down. Then the markers are those of the outcome applied last, which is that of a pass or of a blank
text. Once a pass has ended, they are those of its own outcome or of a newer one if and only if it
was the newest pass when it ended or a newer number has been applied; otherwise the newest pass is
still in flight. A caller of a host who gets markers gets those after the end of the pass that the
call has started, or those after the call if it has started none. -/
theorem awaited_markers [Platform] (hrun : Run { delay := d } ms p)
    (hcalm : ∀ m ∈ ms, m.happening.isCalm = true) :
    (∀ k markers, (k, markers) ∈ ms.flatMap Moment.outcomes → ∃ m ∈ ms, m.Yields k markers) ∧
      p.markers = ((lastOutcome ms).map Prod.snd).getD [] ∧
      (∀ ms₁ m ms₂ n v, ms = ms₁ ++ m :: ms₂ → m.happening = .finish n v →
        (ShowsSince ms n p.markers ↔
          m.before.issued = n ∨ ∃ k ∈ ms.flatMap Moment.applied, n < k) ∧
        (ShowsSince ms n p.markers ∨
          n < p.issued ∧ ∃ pass ∈ p.inFlight, pass.number = p.issued)) ∧
      ∀ (V : Type) (slots : List (Slot V)) (log : Nat → List Moment)
        (sc : Scene (Host V) HostJob HostEvent),
        (∀ s ∈ slots, ∃ d, s.pipeline = { delay := d }) → Host.Recorded slots log sc →
        ∀ ticket markers, .answered ticket (.ok markers) ∈ sc.events →
          ∃ i ms₁ ms₂ d p, log i = ms₁ ++ ms₂ ∧ Run { delay := d } ms₁ p ∧ p.markers = markers ∧
            ∃ m ∈ ms₁, ∃ text, m.happening = .flush ticket text ∧
              ((m.change.started = none ∧ p = m.after) ∨
                ∃ pass, m.change.started = some pass ∧
                  ∃ m' ∈ ms₁, ∃ v, m'.happening = .finish pass.number v) := by
  have hopen : ∀ m ∈ ms, m.happening ≠ .teardown :=
    fun m hm => Happening.ne_teardown_of_isCalm (hcalm m hm)
  refine ⟨?_, hrun.markers_eq, ?_, ?_⟩
  · intro k markers hmem
    obtain ⟨m, hm, hmem⟩ := List.mem_flatMap.1 hmem
    exact ⟨m, hm, Moment.yields_of_mem_outcomes (hrun.transition_of_mem hm) hmem⟩
  · intro ms₁ m ms₂ n v heq hfinish
    refine ⟨hrun.showsSince_iff hopen heq hfinish, ?_⟩
    by_cases hshows : ShowsSince ms n p.markers
    · exact .inl hshows
    · exact .inr (hrun.flying_of_not_showsSince hcalm heq hfinish hshows)
  · intro V slots log sc hfresh hrec ticket markers hanswered
    obtain ⟨i, ms₁, ms₂, p, hlog, ⟨s, hs, hrun⟩, hmarkers, hwhy⟩ :=
      hrec.answered.2 ticket _ hanswered
    obtain ⟨d, hd⟩ := hfresh s hs
    rw [hd] at hrun
    refine ⟨i, ms₁, ms₂, d, p, hlog, hrun, hmarkers, ?_⟩
    rcases hwhy with ⟨m', hm', pass, hpass, hticket, v, hfinish⟩ |
      ⟨ms₀, m, text, rfl, hflush, hstarted⟩
    · -- the pass was in flight when it ended, so the caller had started it before
      obtain ⟨ms₃, ms₄, heq⟩ := List.append_of_mem hm'
      have hstarted := (hrun.moment ms₃ m' ms₄ heq).1.started_of_flying pass hpass
      obtain ⟨m, hm, hstarts⟩ := List.mem_flatMap.1 hstarted
      rw [Moment.started, Option.mem_toList] at hstarts
      obtain ⟨text, hflush⟩ := Moment.flush_of_awaited hstarts hticket
      exact ⟨m, by simp [heq, hm], text, hflush, .inr ⟨pass, hstarts, m', hm', v, hfinish⟩⟩
    · exact ⟨m, by simp, text, hflush, .inl ⟨hstarted, (hrun.rest ms₀ m [] rfl).eq_of_nil rfl⟩⟩

section Usual

open Platform.Usual

/-- The pass of the caller is overtaken by a second one, and ends after it: the caller gets the
markers of the second pass. -/
theorem awaited_markers_overtaken :
    ∃ ms p, Run { delay := .zero false } ms p ∧ (∀ m ∈ ms, m.happening.isCalm = true) ∧
      ShowsSince ms 1 p.markers ∧ p.markers = [Marker.ofFailure (.unavailable "gone")] := by
  have hrun := (Run.start : Run { delay := .zero false } [] _)
    |>.step {} (.flush 7 (some ['a'])) rfl
    |>.step {} (.validateNow (some ['b'])) rfl
    |>.step {} (.finish 2 (.error (.unavailable "gone"))) rfl
    |>.step {} (.finish 1 (.ok ())) rfl
  obtain ⟨-, -, hsince, -⟩ := awaited_markers hrun (List.all_eq_true.1 rfl)
  have hnewer := (hsince _ _ [] 1 (.ok ()) rfl rfl).1.2 (.inr ⟨2, by decide, by decide⟩)
  exact ⟨_, _, hrun, List.all_eq_true.1 rfl, hnewer, rfl⟩

end Usual

end Pipeline.Run

namespace Host

/-! ## A caller who is answered too early -/

section Usual

open Platform.Usual

/-- Every text is rejected, and every answer is kept back. -/
private def withholding : Surroundings Unit :=
  ⟨fun _ _ => .holds (.error (.unavailable "gone")), fun _ => {}⟩

private def freshSlots : List (Slot Unit) := [⟨"", (), { delay := .zero false }⟩]

/-- The pipeline while two passes are in flight; a caller waits for the first one. -/
private def overtaken : Pipeline where
  delay := .zero false
  text := ['b']
  issued := 2
  phase := .validating
  inFlight := [⟨1, ['a'], some 7⟩, ⟨2, ['b'], none⟩]

private def sceneOf (p : Pipeline) (held : List HeldPass) (jobs : List HostJob)
    (events : List HostEvent) : Scene (Host Unit) HostJob HostEvent :=
  ⟨⟨[⟨"", (), p⟩], held, [], 0⟩, jobs, events⟩

/-- A caller flushes a text that is rejected, and gets no markers: a second pass has started before
the end of the first one and is still in flight. No outcome has been applied. -/
theorem exists_answered_empty :
    ∃ log sc, Recorded [⟨"", (), { delay := .zero false }⟩] log sc ∧
      (∀ m ∈ log 0, m.happening.isCalm = true) ∧ .answered 7 (.ok []) ∈ sc.events ∧
      (∃ m ∈ log 0, ∃ pass, m.happening = .flush 7 (some ['a']) ∧ m.change.started = some pass ∧
        pass.number = 1) ∧
      (∃ m ∈ log 0, ∃ f, m.happening = .finish 1 (.error f)) ∧ lastOutcome (log 0) = none := by
  have hflushed : Recorded freshSlots _ (sceneOf
      { overtaken with text := ['a'], issued := 1, inFlight := [⟨1, ['a'], some 7⟩] } []
      [.begin 0 1] []) :=
    Recorded.start
      |>.call withholding 0 (.flush 7 0 (some ['a']))
      |>.work withholding 0 (.refl _)
  have hovertaken : Recorded freshSlots _ (sceneOf overtaken [] [.begin 0 1, .begin 0 2] []) :=
    hflushed.call withholding 0 (.validateNow 0 (some ['b']))
  have hheld : Recorded freshSlots _ (sceneOf overtaken
      [⟨0, ⟨1, ['a'], some 7⟩, .error (.unavailable "gone")⟩] [.begin 0 2] [.consulted ['a']]) :=
    hovertaken.work withholding 0 (.refl _)
  have hreleased : Recorded freshSlots _ (sceneOf overtaken []
      [.begin 0 2, .wake 0 1 (.error (.unavailable "gone"))] [.consulted ['a']]) :=
    hheld.call withholding 0 (.release ['a'])
  -- the first pass ends out of date, so the pipeline has no markers when its caller goes on
  have hended : Recorded freshSlots _ (sceneOf { overtaken with inFlight := [⟨2, ['b'], none⟩] } []
      [.begin 0 2, .resume 7 0 none] [.consulted ['a']]) :=
    hreleased.work withholding 0 (.swap ..)
  have hanswered : Recorded freshSlots _ (sceneOf
      { overtaken with inFlight := [⟨2, ['b'], none⟩] } []
      [.begin 0 2] [.consulted ['a'], .answered 7 (.ok [])]) :=
    hended
      |>.work withholding 0 (.swap ..)
      |>.work withholding 0 (.swap ..)
  exact ⟨_, _, hanswered, List.all_eq_true.1 rfl, List.mem_cons_of_mem _ List.mem_cons_self,
    ⟨_, .head _, _, rfl, rfl, rfl⟩, ⟨_, .tail _ (.tail _ (.head _)), _, rfl⟩, rfl⟩

end Usual

end Host

end Mermaid
