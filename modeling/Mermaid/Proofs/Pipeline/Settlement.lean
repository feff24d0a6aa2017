import Mermaid.Proofs.Pipeline.Callers
import Mermaid.Proofs.Pipeline.Supersession

/-!
# The last text decides

Once a pipeline has come to rest, it shows the outcome of the text that was handed in last, whatever
happened before: no edit is lost, and no older pass has the last word.

The invariant is `Settlement`. While no timer is set, the last text is blank and shown as such, or
the newest pass runs on it, or that pass has ended and its outcome is shown.
-/

namespace Mermaid

/-- What is shown of an outcome: the markers, the phase, and the status with its message. -/
structure Showing where
  markers : List Marker
  phase : Phase
  status : RenderStatus
  message : Option Json

namespace Showing

/-- What is shown of a blank text. -/
def blank : Showing := ⟨[], .idle, .empty, none⟩

/-- What is shown of a verdict. -/
def ofVerdict : Verdict → Showing
  | .ok () => ⟨[], .clean, .valid, none⟩
  | .error failure =>
    ⟨[Marker.ofFailure failure], .error, .error, some (Marker.ofFailure failure).message⟩

end Showing

/-- The text handed in last; it is empty as long as there has been none. -/
def lastText (ms : List Moment) : Text := ms.foldl (fun text m => m.happening.text?.getD text) []

/-- The markers published last. -/
def lastPublished (ms : List Moment) : Option (List Marker) :=
  (ms.filterMap fun m => m.change.published).getLast?

/-- The status reported last, with its message. -/
def lastReported (ms : List Moment) : Option (RenderStatus × Option Json) :=
  (ms.filterMap fun m => m.change.reported).getLast?

/-- Whether a pipeline that has been called is open and at rest: no timer is set, and no pass is in
flight. -/
structure AtRest (ms : List Moment) (p : Pipeline) : Prop where
  called : ∃ m ∈ ms, m.happening.isEntry = true
  isOpen : p.isClosed = false
  timer : p.timer = none
  inFlight : p.inFlight = []

/-- Whether a pipeline shows something, and has handed it to its receivers last. -/
structure Shows (ms : List Moment) (p : Pipeline) (s : Showing) : Prop where
  markers : p.markers = s.markers
  phase : p.phase = s.phase
  published : lastPublished ms = some s.markers
  reported : lastReported ms = some (s.status, s.message)

/-- Whether a pass has ended with a verdict, and with no other. -/
def EndedWith (ms : List Moment) (number : Nat) (v : Verdict) : Prop :=
  (∃ m ∈ ms, m.happening = .finish number v) ∧
    ∀ m ∈ ms, ∀ w, m.happening = .finish number w → w = v

/-- Whether the receivers raise no error at a moment, and no pass is cancelled. -/
structure Moment.IsPlain (m : Moment) : Prop where
  receivers : m.receivers = {}
  uncancelled : ∀ n, m.happening ≠ .cancel n

/-! ## One more moment -/

@[simp] lemma lastText_concat (ms : List Moment) (m : Moment) :
    lastText (ms ++ [m]) = m.happening.text?.getD (lastText ms) := by
  rw [lastText, List.foldl_append]
  rfl

lemma lastPublished_concat (ms : List Moment) (m : Moment) :
    lastPublished (ms ++ [m]) = m.change.published.or (lastPublished ms) := by
  rw [lastPublished, List.filterMap_append]
  cases h : m.change.published <;> simp [lastPublished, h]

lemma lastReported_concat (ms : List Moment) (m : Moment) :
    lastReported (ms ++ [m]) = m.change.reported.or (lastReported ms) := by
  rw [lastReported, List.filterMap_append]
  cases h : m.change.reported <;> simp [lastReported, h]

/-- What is shown stays, as long as nothing is handed to the receivers. -/
lemma Shows.concat {ms : List Moment} {m : Moment} {s : Showing} (hs : Shows ms m.before s)
    (hpublished : m.change.published = none) (hreported : m.change.reported = none)
    (hmarkers : m.after.markers = m.before.markers) (hphase : m.after.phase = m.before.phase) :
    Shows (ms ++ [m]) m.after s where
  markers := hmarkers.trans hs.markers
  phase := hphase.trans hs.phase
  published := by rw [lastPublished_concat, hpublished, Option.none_or, hs.published]
  reported := by rw [lastReported_concat, hreported, Option.none_or, hs.reported]

/-- What is handed to the receivers is shown, when markers and phase go with it. -/
lemma Shows.of_change {ms : List Moment} {m : Moment} {s : Showing}
    (hpublished : m.change.published = some s.markers)
    (hreported : m.change.reported = some (s.status, s.message))
    (hmarkers : m.after.markers = s.markers) (hphase : m.after.phase = s.phase) :
    Shows (ms ++ [m]) m.after s where
  markers := hmarkers
  phase := hphase
  published := by rw [lastPublished_concat, hpublished, Option.some_or]
  reported := by rw [lastReported_concat, hreported, Option.some_or]

/-- A moment at which no pass ends leaves the ends of all passes as they are. -/
lemma EndedWith.concat {ms : List Moment} {m : Moment} {number : Nat} {v : Verdict}
    (he : EndedWith ms number v) (hm : ∀ w, m.happening ≠ .finish number w) :
    EndedWith (ms ++ [m]) number v := by
  obtain ⟨⟨m₀, hmem, hfinish⟩, hunique⟩ := he
  refine ⟨⟨m₀, List.mem_append_left _ hmem, hfinish⟩, ?_⟩
  intro m' hm' w hw
  rcases List.mem_append.1 hm' with hold | hnew
  · exact hunique m' hold w hw
  · rw [List.mem_singleton] at hnew
    exact absurd (hnew ▸ hw) (hm w)

/-! ## Ends of passes -/

/-- A pass in flight has not ended before, and no number above the issued ones has. -/
structure Ends (ms : List Moment) (p : Pipeline) : Prop where
  ended_le : ∀ m ∈ ms, ∀ n v, m.happening = .finish n v → n ≤ p.issued
  unended : ∀ pass ∈ p.inFlight, ∀ m ∈ ms, ∀ v, m.happening ≠ .finish pass.number v

/-- Passes in flight were in flight before, or have a new number. -/
lemma Count.flying {p : Pipeline} {h : Happening} {c : Change} (hc : Count p h c) :
    p.issued ≤ c.pipeline.issued ∧
      ∀ pass ∈ c.pipeline.inFlight, pass ∈ p.inFlight ∨ p.issued < pass.number := by
  cases hc with
  | idle hissued hflight _ _ _ =>
    exact ⟨Nat.le_of_eq hissued.symm, fun pass hpass => .inl (hflight hpass)⟩
  | blank hissued hflight _ _ _ _ =>
    rw [hissued, hflight]
    exact ⟨Nat.le_succ _, fun _ => .inl⟩
  | pass new hnumber hissued hflight _ _ _ =>
    rw [hissued, hflight]
    refine ⟨Nat.le_succ _, ?_⟩
    intro pass hpass
    rcases List.mem_append.1 hpass with hold | hnew
    · exact .inl hold
    · rw [List.mem_singleton] at hnew
      rw [hnew, hnumber]
      exact .inr (Nat.lt_succ_self _)
  | newest _ _ _ _ hissued hflight _ _ =>
    rw [hissued, hflight]
    exact ⟨Nat.le_refl _, fun pass hpass => .inl (List.mem_filter.1 hpass).1⟩

/-- A pass that ends is not in flight any more. -/
lemma Transition.number_ne_of_finish {r : Receivers} {p : Pipeline} {n : Nat} {v : Verdict}
    {c : Change} (ht : Transition r p (.finish n v) c) :
    ∀ pass ∈ c.pipeline.inFlight, pass.number ≠ n := by
  have hdrop : ∀ pass ∈ (p.drop n).inFlight, pass.number ≠ n := by
    intro pass hpass
    simpa [Pipeline.drop] using (List.mem_filter.1 hpass).2
  -- the end of a pass is no call, so it only settles the newest pass or drops an older one
  cases ht with
  | ignored _ _ hentry => cases hentry
  | cleared _ _ hentry _ => cases hentry
  | armed _ _ _ hentry _ => cases hentry
  | started _ _ _ hentry _ => cases hentry
  | settled _ _ _ _ _ _ _ =>
    rw [(Pipeline.settle_numbers r v (p.drop n)).2.1]
    exact hdrop
  | outdated _ _ _ => exact hdrop

/-- Whatever happens, a pass ends at most once. -/
lemma Ends.step {ms : List Moment} {m : Moment} (he : Ends ms m.before)
    (hn : Numbering ms m.before) (hpossible : m.happening.isPossible m.before = true)
    (ht : Transition m.receivers m.before m.happening m.change) : Ends (ms ++ [m]) m.after := by
  obtain ⟨hissued, hflying⟩ := ht.count.flying
  refine ⟨?_, ?_⟩
  · intro m' hm' n v hfinish
    rcases List.mem_append.1 hm' with hold | hnew
    · exact Nat.le_trans (he.ended_le m' hold n v hfinish) hissued
    · rw [List.mem_singleton] at hnew
      subst hnew
      rw [hfinish] at hpossible
      obtain ⟨pass, hpass⟩ := Option.isSome_iff_exists.1 hpossible
      obtain ⟨hmem, rfl⟩ := Pipeline.mem_of_pass?_eq_some hpass
      exact Nat.le_trans (hn.flying_le pass hmem) hissued
  · intro pass hpass m' hm' v hfinish
    rcases List.mem_append.1 hm' with hold | hnew
    · rcases hflying pass hpass with hflew | hlater
      · exact he.unended pass hflew m' hold v hfinish
      · have := he.ended_le m' hold _ v hfinish
        omega
    · rw [List.mem_singleton] at hnew
      subst hnew
      rw [hfinish] at ht
      exact ht.number_ne_of_finish pass hpass rfl

/-! ## Settlement -/

/-- What the moments of a run have to do with what its pipeline shows, as long as it is open. -/
structure Settlement (ms : List Moment) (p : Pipeline) : Prop where
  closed : p.isClosed = true → p.timer = none
  text : p.isClosed = false → p.text = lastText ms
  /-- The timer is set for a text that is not blank. -/
  typed : p.isClosed = false → p.timer.isSome = true → Text.isBlankText p.text = false
  /-- Before the first call nothing is under way. -/
  uncalled : (∀ m ∈ ms, m.happening.isEntry = false) → p.timer = none ∧ p.inFlight = []
  /-- A blank text is shown, and newer than all passes in flight. -/
  blank : p.isClosed = false → (∃ m ∈ ms, m.happening.isEntry = true) → p.timer = none →
    Text.isBlankText p.text = true →
      (∀ pass ∈ p.inFlight, pass.number < p.issued) ∧ Shows ms p .blank
  /-- The newest pass runs on any other text, or has ended and is shown. -/
  validated : p.isClosed = false → (∃ m ∈ ms, m.happening.isEntry = true) → p.timer = none →
    Text.isBlankText p.text = false →
      ∃ pass ∈ ms.flatMap Moment.started, pass.number = p.issued ∧ pass.text = p.text ∧
        (pass ∈ p.inFlight ∨
          ∃ v, EndedWith ms pass.number v ∧ Shows ms p (.ofVerdict v))

/-- Taking an outcome hands all of it to the receivers, and shows it unless a timer is set. -/
lemma Pipeline.settle_showing (v : Verdict) (p : Pipeline) :
    (p.settle {} v).published = some (Showing.ofVerdict v).markers ∧
      (p.settle {} v).reported =
        some ((Showing.ofVerdict v).status, (Showing.ofVerdict v).message) ∧
      (p.settle {} v).pipeline.markers = (Showing.ofVerdict v).markers ∧
      (p.timer = none → (p.settle {} v).pipeline.phase = (Showing.ofVerdict v).phase) := by
  cases v with
  | ok => exact ⟨rfl, rfl, rfl, fun ht => by simp [settle, apply, settled, ht, Showing.ofVerdict]⟩
  | error f =>
    exact ⟨rfl, rfl, rfl, fun ht => by simp [settle, apply, settled, ht, Showing.ofVerdict]⟩

/-- Taking an outcome leaves the text and the timer alone, and the phase as well if a timer is set.
-/
lemma Pipeline.settle_text (r : Receivers) (v : Verdict) (p : Pipeline) :
    (p.settle r v).pipeline.text = p.text ∧ (p.settle r v).pipeline.timer = p.timer ∧
      (p.timer.isSome = true → (p.settle r v).pipeline.phase = p.phase) := by
  have hsettled : ∀ phase, (p.settled phase).text = p.text ∧ (p.settled phase).timer = p.timer ∧
      (p.timer.isSome = true → (p.settled phase).phase = p.phase) := by
    intro phase
    unfold settled
    split
    · exact ⟨rfl, rfl, fun _ => rfl⟩
    · next hnone => exact ⟨rfl, rfl, fun hset => absurd hset hnone⟩
  cases v with
  | ok => exact hsettled _
  | error f => exact hsettled _

namespace Settlement

/-- A fresh pipeline has not been called. -/
lemma start (d : Binary64) : Settlement [] { delay := d } := by
  constructor <;> simp [lastText, Pipeline.isClosed]

/-- A pipeline that is closed is settled. -/
lemma of_closed {ms : List Moment} {p : Pipeline} (hclosed : p.isClosed = true)
    (htimer : p.timer = none)
    (huncalled : (∀ m ∈ ms, m.happening.isEntry = false) → p.inFlight = []) : Settlement ms p where
  closed := fun _ => htimer
  text := fun hopen => by simp [hclosed] at hopen
  typed := fun hopen => by simp [hclosed] at hopen
  uncalled := fun h => ⟨htimer, huncalled h⟩
  blank := fun hopen => by simp [hclosed] at hopen
  validated := fun hopen => by simp [hclosed] at hopen

/-- A pipeline with a pass in flight has been called. -/
lemma called_of_mem {ms : List Moment} {p : Pipeline} (hs : Settlement ms p) {pass : Pass}
    (hpass : pass ∈ p.inFlight) : ∃ m ∈ ms, m.happening.isEntry = true := by
  by_contra hnone
  push Not at hnone
  have hempty := (hs.uncalled fun m hm => by simpa using hnone m hm).2
  rw [hempty] at hpass
  cases hpass

/-- A timer is set only while the pipeline is open, and only after a call. -/
lemma open_and_called_of_timer {ms : List Moment} {p : Pipeline} (hs : Settlement ms p)
    (hset : p.timer.isSome = true) :
    p.isClosed = false ∧ ∃ m ∈ ms, m.happening.isEntry = true := by
  have hne : p.timer ≠ none := by
    intro hunset
    simp [hunset] at hset
  constructor
  · by_contra hclosed
    exact hne (hs.closed (by simpa using hclosed))
  · by_contra hnone
    push Not at hnone
    exact hne (hs.uncalled fun m hm => by simpa using hnone m hm).1

/-- A blank text is shown at once. -/
lemma concat_of_cleared {ms : List Moment} {m : Moment} (hs : Settlement ms m.before)
    (hn : Numbering ms m.before) (hopen : m.before.isClosed = false)
    (hentry : m.happening.isEntry = true)
    (hblank : Text.isBlankText (m.happening.text?.getD m.before.text) = true)
    (hchange : m.change = Pipeline.clear {}
      { m.before with timer := none, text := m.happening.text?.getD m.before.text }) :
    Settlement (ms ++ [m]) m.after := by
  have hafter : m.after = { m.before with
      timer := none, text := m.happening.text?.getD m.before.text,
      issued := m.before.issued + 1, phase := .idle, markers := [] } := by
    rw [Moment.after, hchange]
    rfl
  have hshows : Shows (ms ++ [m]) m.after .blank := by
    apply Shows.of_change
    · rw [hchange]; rfl
    · rw [hchange]; rfl
    · rw [hafter]; rfl
    · rw [hafter]; rfl
  constructor
  · intro _
    rw [hafter]
  · intro _
    rw [hafter, lastText_concat, ← hs.text hopen]
  · intro _ htimer
    simp [hafter] at htimer
  · intro hnone
    have := hnone m (by simp)
    simp [hentry] at this
  · intro _ _ _ _
    refine ⟨?_, hshows⟩
    rw [hafter]
    exact fun pass hpass => Nat.lt_succ_of_le (hn.flying_le pass hpass)
  · intro _ _ _ htyped
    simp [hafter, hblank] at htyped

/-- A timer leaves everything open. -/
lemma concat_of_armed {ms : List Moment} {m : Moment} (hs : Settlement ms m.before) {t : SetTimer}
    (hopen : m.before.isClosed = false) (hentry : m.happening.isEntry = true)
    (hblank : Text.isBlankText (m.happening.text?.getD m.before.text) = false)
    (hchange : m.change = { pipeline := { m.before with
      text := m.happening.text?.getD m.before.text, timer := some t,
      timersSet := m.before.timersSet + 1, phase := .pending } }) :
    Settlement (ms ++ [m]) m.after := by
  have htimer : m.after.timer = some t := by rw [Moment.after, hchange]
  have htext : m.after.text = m.happening.text?.getD m.before.text := by rw [Moment.after, hchange]
  have hphase : m.after.phase = .pending := by rw [Moment.after, hchange]
  constructor
  · intro hclosed
    simp [Pipeline.isClosed, hphase] at hclosed
  · intro _
    rw [htext, lastText_concat, ← hs.text hopen]
  · intro _ _
    rw [htext, hblank]
  · intro hnone
    have := hnone m (by simp)
    simp [hentry] at this
  · intro _ _ hnone
    simp [htimer] at hnone
  · intro _ _ hnone
    simp [htimer] at hnone

/-- A pass that starts on the last text is the newest, and in flight. -/
lemma concat_of_started {ms : List Moment} {m : Moment} {caller : Option Nat} {text : Text}
    (hcalled : ∃ m' ∈ ms ++ [m], m'.happening.isEntry = true)
    (hlast : text = lastText (ms ++ [m])) (htyped : Text.isBlankText text = false)
    (hchange : m.change = Pipeline.start caller { m.before with timer := none, text := text }) :
    Settlement (ms ++ [m]) m.after := by
  have hafter : m.after = { m.before with
      timer := none, text := text, issued := m.before.issued + 1, phase := .validating,
      inFlight := m.before.inFlight ++ [⟨m.before.issued + 1, text, caller⟩] } := by
    rw [Moment.after, hchange]
    rfl
  have hstarted : m.started = [⟨m.before.issued + 1, text, caller⟩] := by
    rw [Moment.started, hchange]
    rfl
  constructor
  · intro hclosed
    simp [hafter, Pipeline.isClosed] at hclosed
  · intro _
    rw [hafter, hlast]
  · intro _ htimer
    simp [hafter] at htimer
  · intro hnone
    obtain ⟨m', hm', hentry⟩ := hcalled
    simp [hnone m' hm'] at hentry
  · intro _ _ _ hblank
    simp [hafter, htyped] at hblank
  · intro _ _ _ _
    refine ⟨⟨m.before.issued + 1, text, caller⟩, ?_, ?_, ?_, .inl ?_⟩
    · simp [hstarted]
    · rw [hafter]
    · rw [hafter]
    · simp [hafter]

/-- What hands nothing in, hands nothing to the receivers and does not end the newest pass leaves
all as it is. -/
lemma concat_of_quiet {ms : List Moment} {m : Moment} (hs : Settlement ms m.before)
    (d : Binary64) (flying : List Pass) (hentry : m.happening.isEntry = false)
    (hnewest : ∀ v, m.happening ≠ .finish m.before.issued v)
    (hpublished : m.change.published = none) (hreported : m.change.reported = none)
    (hafter : m.after = { m.before with delay := d, inFlight := flying })
    (hflying : ∀ pass ∈ flying, pass ∈ m.before.inFlight)
    (hstill : ∀ pass ∈ m.before.inFlight, pass.number = m.before.issued → pass ∈ flying) :
    Settlement (ms ++ [m]) m.after := by
  have hshown : ∀ s, Shows ms m.before s → Shows (ms ++ [m]) m.after s := by
    intro s hshows
    apply hshows.concat hpublished hreported
    · rw [hafter]
    · rw [hafter]
  have hcalled : (∃ m' ∈ ms ++ [m], m'.happening.isEntry = true) →
      ∃ m' ∈ ms, m'.happening.isEntry = true := by
    intro hsome
    obtain ⟨m', hm', hentered⟩ := hsome
    rcases List.mem_append.1 hm' with hold | hnew
    · exact ⟨m', hold, hentered⟩
    · rw [List.mem_singleton.1 hnew, hentry] at hentered
      cases hentered
  have hlast : lastText (ms ++ [m]) = lastText ms := by
    rw [lastText_concat]
    cases hh : m.happening <;> simp_all [Happening.isEntry, Happening.text?]
  -- apart from the passes in flight, each field speaks of the same data before and after
  have hclosed : m.after.isClosed = m.before.isClosed := by rw [hafter]; rfl
  have htimer : m.after.timer = m.before.timer := by rw [hafter]
  have htext : m.after.text = m.before.text := by rw [hafter]
  have hissued : m.after.issued = m.before.issued := by rw [hafter]
  have hflight : m.after.inFlight = flying := by rw [hafter]
  constructor <;> simp only [hclosed, htimer, htext, hissued, hflight, hlast]
  · exact hs.closed
  · exact hs.text
  · exact hs.typed
  · intro hnone
    obtain ⟨hunset, hempty⟩ := hs.uncalled fun m' hm' => hnone m' (List.mem_append_left _ hm')
    refine ⟨hunset, List.eq_nil_iff_forall_not_mem.2 fun pass hpass => ?_⟩
    simpa [hempty] using hflying pass hpass
  · intro hopen hentered hunset hblank
    obtain ⟨hbelow, hshows⟩ := hs.blank hopen (hcalled hentered) hunset hblank
    exact ⟨fun pass hpass => hbelow pass (hflying pass hpass), hshown _ hshows⟩
  · intro hopen hentered hunset htyped
    obtain ⟨pass, hpass, hnumber, htext, hwhere⟩ :=
      hs.validated hopen (hcalled hentered) hunset htyped
    refine ⟨pass, by simp_all, hnumber, htext, ?_⟩
    rcases hwhere with hmem | ⟨v, hended, hshows⟩
    · exact .inl (hstill pass hmem hnumber)
    · exact .inr ⟨v, hended.concat fun w hw => hnewest w (hnumber ▸ hw), hshown _ hshows⟩

/-- The end of an older pass leaves all as it is. -/
lemma concat_of_outdated {ms : List Moment} {m : Moment} (hs : Settlement ms m.before) {n : Nat}
    {v : Verdict} (hfinish : m.happening = .finish n v) (hne : n ≠ m.before.issued)
    (hchange : m.change = { pipeline := m.before.drop n }) : Settlement (ms ++ [m]) m.after := by
  apply concat_of_quiet hs m.before.delay (m.before.drop n).inFlight
  · rw [hfinish]
    rfl
  · intro w hw
    rw [hfinish] at hw
    injection hw with hnumber
    exact hne hnumber
  · rw [hchange]
  · rw [hchange]
  · rw [Moment.after, hchange]
    rfl
  · exact fun pass hpass => (List.mem_filter.1 hpass).1
  · intro pass hpass hnumber
    rw [Pipeline.drop, List.mem_filter]
    exact ⟨hpass, by simpa [hnumber] using hne.symm⟩

/-- The end of the newest pass is shown, unless a timer is set. -/
lemma concat_of_settled {ms : List Moment} {m : Moment} (hs : Settlement ms m.before)
    (he : Ends ms m.before) {v : Verdict} {flying : Pass}
    (hfinish : m.happening = .finish m.before.issued v) (hflying : flying ∈ m.before.inFlight)
    (hnewest : flying.number = m.before.issued) (hopen : m.before.isClosed = false)
    (hchange : m.change = Pipeline.settle {} v (m.before.drop m.before.issued)) :
    Settlement (ms ++ [m]) m.after := by
  have hafter : m.after = (Pipeline.settle {} v (m.before.drop m.before.issued)).pipeline := by
    rw [Moment.after, hchange]
  obtain ⟨htext, htimer, hkept⟩ := Pipeline.settle_text {} v (m.before.drop m.before.issued)
  obtain ⟨hissued, -⟩ := Pipeline.settle_numbers {} v (m.before.drop m.before.issued)
  obtain ⟨hpublished, hreported, hmarkers, hphase⟩ :=
    Pipeline.settle_showing v (m.before.drop m.before.issued)
  rw [← hafter] at htext htimer hissued hmarkers hphase hkept
  rw [← hchange] at hpublished hreported
  have hcalled := hs.called_of_mem hflying
  constructor
  · intro hclosed
    rw [htimer]
    cases hset : m.before.timer with
    | none => exact hset
    | some t =>
      -- the phase is still that of the open pipeline before
      have hphase : m.after.phase = m.before.phase := hkept (by simp [Pipeline.drop, hset])
      rw [Pipeline.isClosed, hphase] at hclosed
      simp [Pipeline.isClosed] at hopen hclosed
      exact absurd hclosed hopen
  · intro _
    rw [htext, lastText_concat, hfinish]
    exact hs.text hopen
  · intro _ hset
    rw [htimer] at hset
    rw [htext]
    exact hs.typed hopen hset
  · intro hnone
    obtain ⟨m', hm', hentry⟩ := hcalled
    simp [hnone m' (List.mem_append_left _ hm')] at hentry
  · intro _ _ hnone hblank
    rw [htimer] at hnone
    rw [htext] at hblank
    -- a blank text would have taken a higher number than the pass that ends
    have hbelow := (hs.blank hopen hcalled hnone hblank).1 flying hflying
    omega
  · intro _ _ hnone htyped
    rw [htext] at htyped ⊢
    rw [htimer] at hnone
    obtain ⟨pass, hpass, hnumber, htext', -⟩ := hs.validated hopen hcalled hnone htyped
    refine ⟨pass, by simp_all, hnumber.trans hissued.symm, htext', .inr ⟨v, ⟨⟨m, ?_, ?_⟩, ?_⟩, ?_⟩⟩
    · simp
    · rw [hnumber, hfinish]
    · intro m' hm' w hw
      rcases List.mem_append.1 hm' with hold | hnew
      · -- it was in flight until now, so it has not ended before
        exact absurd (hnumber ▸ hw) (hnewest ▸ he.unended flying hflying m' hold w)
      · rw [List.mem_singleton.1 hnew, hfinish] at hw
        injection hw with _ hverdict
        exact hverdict.symm
    · exact Shows.of_change hpublished hreported hmarkers (hphase hnone)

/-- Whatever happens, as long as receivers raise no errors and no pass is cancelled, the last text
stays settled. -/
lemma step {ms : List Moment} {m : Moment} (hs : Settlement ms m.before)
    (hn : Numbering ms m.before) (he : Ends ms m.before) (hplain : m.IsPlain)
    (hpossible : m.happening.isPossible m.before = true) : Settlement (ms ++ [m]) m.after := by
  -- a cancelled pass is ruled out; of the other transitions, four can change what is shown
  obtain ⟨p, r, h⟩ := m
  obtain ⟨rfl, huncancelled⟩ := hplain
  have ht : Transition {} p h (Moment.change ⟨p, {}, h⟩) := p.respond_transition {} h hpossible
  generalize hc : Moment.change ⟨p, {}, h⟩ = c at ht
  cases ht with
  | ignored _ hclosed hentry =>
    have hafter : Moment.after ⟨p, {}, h⟩ = p := by rw [Moment.after, hc]
    rw [hafter]
    apply of_closed hclosed (hs.closed hclosed)
    intro hnone
    have := hnone ⟨p, {}, h⟩ (by simp)
    simp [hentry] at this
  | cleared _ hopen hentry hblank => exact concat_of_cleared hs hn hopen hentry hblank hc
  | armed _ t hopen hentry hblank => exact concat_of_armed hs hopen hentry hblank hc
  | started _ caller hopen hentry hblank =>
    refine concat_of_started ⟨⟨p, {}, h⟩, by simp, hentry⟩ ?_ hblank hc
    rw [lastText_concat, ← hs.text hopen]
  | fired serial hset =>
    obtain ⟨hopen, m', hm', hentry⟩ := hs.open_and_called_of_timer hset
    refine concat_of_started ⟨m', List.mem_append_left _ hm', hentry⟩ ?_ (hs.typed hopen hset) hc
    rw [lastText_concat]
    exact hs.text hopen
  | settled n v flying hflying hnumber hopen hnewest =>
    subst hnewest
    exact concat_of_settled hs he rfl hflying hnumber hopen hc
  | outdated n v hstale =>
    -- the pass ends after teardown, or a newer number has been issued
    cases hclosed : p.isClosed with
    | true =>
      have hafter : Moment.after ⟨p, {}, .finish n v⟩ = p.drop n := by rw [Moment.after, hc]
      rw [hafter]
      refine of_closed (p := p.drop n) hclosed (hs.closed hclosed) fun hnone => ?_
      have hempty : p.inFlight = [] :=
        (hs.uncalled fun m' hm' => hnone m' (List.mem_append_left _ hm')).2
      rw [Pipeline.drop, hempty]
      rfl
    | false =>
      exact concat_of_outdated hs rfl (by simpa [hclosed] using hstale) hc
  | cancelled n => exact absurd rfl (huncancelled n)
  | tornDown =>
    have hafter : Moment.after ⟨p, {}, .teardown⟩ = p.teardown := by rw [Moment.after, hc]
    rw [hafter]
    apply of_closed rfl rfl
    intro hnone
    exact (hs.uncalled fun m' hm' => hnone m' (List.mem_append_left _ hm')).2
  | delayed d =>
    apply concat_of_quiet hs d p.inFlight rfl
    · intro w hw
      cases hw
    · rw [hc]
    · rw [hc]
    · rw [Moment.after, hc]
    · exact fun _ => id
    · exact fun _ hpass _ => hpass

end Settlement

/-! ## The last text decides -/

/-- Nothing raises an error at a plain moment. -/
lemma Moment.IsPlain.raised {m : Moment} (hplain : m.IsPlain) : m.change.raised = false := by
  rw [Moment.change, hplain.receivers]
  cases m.happening with
  | update now text => exact Pipeline.raised_update now text m.before
  | validateNow text => exact Pipeline.raised_validateNow none text m.before
  | flush ticket text => exact Pipeline.raised_validateNow (some ticket) text m.before
  | setDelay d => rfl
  | teardown => rfl
  | fire serial => exact Pipeline.raised_fire serial m.before
  | finish n v => exact Pipeline.raised_finish n v m.before
  | cancel n => rfl

namespace Pipeline.Run

/-- Along every run a pass ends at most once. -/
lemma ends {d : Binary64} {ms : List Moment} {p : Pipeline} (hrun : Run { delay := d } ms p) :
    Ends ms p := by
  induction hrun with
  | start => constructor <;> simp
  | step r h hrun hpossible ih =>
    exact Ends.step (m := ⟨_, r, h⟩) ih hrun.numbering hpossible
      (respond_transition r _ h hpossible)

/-- Along every plain run the last text is settled. -/
lemma settlement {d : Binary64} {ms : List Moment} {p : Pipeline}
    (hrun : Run { delay := d } ms p) (hplain : ∀ m ∈ ms, m.IsPlain) : Settlement ms p := by
  induction hrun with
  | start => exact Settlement.start d
  | step r h hrun hpossible ih =>
    exact Settlement.step (m := ⟨_, r, h⟩) (ih fun m hm => hplain m (List.mem_append_left _ hm))
      hrun.numbering hrun.ends (hplain _ (by simp)) hpossible

/-- **The last text decides.** Receivers raise no error, and no pass is cancelled. Then at the end
of every run that leaves the pipeline open and at rest, it shows that the last text is blank, or
else the verdict of the pass with the highest number, which ran on the last text. Nothing that
happens raises an error; and no caller of a host is answered with a fault. -/
theorem last_text_decides [Platform] {d : Binary64} {ms : List Moment} {p : Pipeline}
    (hrun : Run { delay := d } ms p) (hplain : ∀ m ∈ ms, m.IsPlain) :
    (AtRest ms p →
      (Text.isBlankText (lastText ms) = true → Shows ms p .blank) ∧
      (Text.isBlankText (lastText ms) = false →
        ∃ pass ∈ ms.flatMap Moment.started, pass.text = lastText ms ∧
          (∀ other ∈ ms.flatMap Moment.started, other.number ≤ pass.number) ∧
          ∃ v, EndedWith ms pass.number v ∧ Shows ms p (.ofVerdict v))) ∧
      (∀ m ∈ ms, m.change.raised = false) ∧
      ∀ (V : Type) (slots : List (Slot V)) (sc : Scene (Host V) HostJob HostEvent),
        Host.Scenes slots sc → ∀ ticket fault, .answered ticket (.error fault) ∉ sc.events := by
  refine ⟨?_, fun m hm => (hplain m hm).raised, ?_⟩
  · intro hrest
    have hs := hrun.settlement hplain
    rw [← hs.text hrest.isOpen]
    constructor
    · intro hblank
      exact (hs.blank hrest.isOpen hrest.called hrest.timer hblank).2
    · intro htyped
      obtain ⟨pass, hpass, hnumber, htext, hwhere⟩ :=
        hs.validated hrest.isOpen hrest.called hrest.timer htyped
      refine ⟨pass, hpass, htext, ?_, ?_⟩
      · intro other hother
        rw [hnumber]
        exact hrun.numbering.handed_le _ (hrun.started_sublist.subset (List.mem_map_of_mem hother))
      · rcases hwhere with hflying | hended
        · -- at rest no pass is in flight any more
          rw [hrest.inFlight] at hflying
          cases hflying
        · exact hended
  · -- whatever is in a scene of a host, it is no fault for a caller
    intro V slots sc hsc ticket fault hmem
    obtain ⟨markers, hok⟩ := Host.Scenes.answered_ok hsc _ hmem
    cases hok

/-- One more happening, with receivers that raise no error, keeps a run plain. -/
lemma step_plain {p₀ p : Pipeline} {ms : List Moment}
    (hrun : Run p₀ ms p ∧ ∀ m ∈ ms, m.IsPlain) (h : Happening) (huncancelled : ∀ n, h ≠ .cancel n)
    (hpossible : h.isPossible p = true) :
    Run p₀ (ms ++ [⟨p, {}, h⟩]) (p.respond {} h).pipeline ∧
      ∀ m ∈ ms ++ [⟨p, {}, h⟩], m.IsPlain := by
  refine ⟨.step {} h hrun.1 hpossible, ?_⟩
  intro m hm
  rcases List.mem_append.1 hm with hold | hnew
  · exact hrun.2 m hold
  · rw [List.mem_singleton.1 hnew]
    exact ⟨rfl, huncancelled⟩

section Usual

open Platform.Usual

/-- The timer of the first text is replaced by a call; two passes end in the wrong order, and the
text of the one that was started last is shown as rejected. -/
theorem last_text_decides_reversed :
    ∃ ms p, Run { delay := .zero false } ms p ∧ (∀ m ∈ ms, m.IsPlain) ∧ AtRest ms p ∧
      lastText ms = ['b'] ∧
      ∃ pass ∈ ms.flatMap Moment.started, pass.text = ['b'] ∧
        (∀ other ∈ ms.flatMap Moment.started, other.number ≤ pass.number) ∧
        ∃ v, EndedWith ms pass.number v ∧ Shows ms p (.ofVerdict v) := by
  have hstart : Run { delay := .zero false } [] { delay := .zero false } ∧
      ∀ m ∈ ([] : List Moment), m.IsPlain := ⟨.start, by simp⟩
  have h₁ := step_plain hstart (.update 0 ['a']) (by simp) rfl
  have h₂ := step_plain h₁ (.validateNow none) (by simp) rfl
  have h₃ := step_plain h₂ (.flush 7 (some ['b'])) (by simp) rfl
  have h₄ := step_plain h₃ (.finish 2 (.error (.unavailable "gone"))) (by simp) rfl
  have h₅ := step_plain h₄ (.finish 1 (.ok ())) (by simp) rfl
  obtain ⟨ms, p, hrun, hplain, hrest, htext⟩ : ∃ ms p, Run { delay := .zero false } ms p ∧
      (∀ m ∈ ms, m.IsPlain) ∧ AtRest ms p ∧ lastText ms = ['b'] :=
    ⟨_, _, h₅.1, h₅.2, ⟨⟨_, List.mem_cons_self, rfl⟩, rfl, rfl, rfl⟩, rfl⟩
  have hdecided := ((last_text_decides hrun hplain).1 hrest).2 (by rw [htext]; rfl)
  rw [htext] at hdecided
  exact ⟨ms, p, hrun, hplain, hrest, htext, hdecided⟩

end Usual

end Pipeline.Run

end Mermaid
