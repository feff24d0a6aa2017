import Mermaid.Proofs.EventLoop.Excerpt

/-!
# Runs until an instant

A loop may be stopped on the way and set going again, and jobs may be left out of it. Neither makes
a difference to the other jobs and to when they are done, if the clock only ticks: what it cannot
tell from a reading, it shows no later. With a clock that shows more a timer is done a little early
when something else wakes the loop shortly before it, and on time when the loop is left to sleep.

* `Platform.Ticks` says that the clock only ticks;
* `Machine.stamped` shows when each thing can be seen;
* `EventLoop.run_run` says that stopping at a reading of the clock makes no difference;
* `Excerpt.Shows.run` says that an excerpt works like its loop, and at the same times.
-/

namespace Mermaid

variable {S J E : Type}

/-! ## Clocks that tick -/

/-- Whether the clock shows no later instant for one that it does not tell from a reading. -/
def Platform.Ticks [Platform] : Prop :=
  ∀ s t : Instant, t < Platform.clock s + Platform.resolution →
    Platform.clock t ≤ Platform.clock s

lemma Platform.Ticks.clock_mono [Platform] (hticks : Platform.Ticks) {s t : Instant}
    (hle : s ≤ t) : Platform.clock s ≤ Platform.clock t :=
  hticks t s (hle.trans_lt (Platform.lt_clock_add t))

/-- The usual clock ticks in microseconds. -/
lemma Platform.ticks_usual : @Platform.Ticks Platform.Usual.usual := by
  intro s t h
  change t < ((s * 1000000).floor : Rat) / 1000000 + mkRat 1 1000000 at h
  have hresolution : mkRat 1 1000000 = 1 / 1000000 := by decide +kernel
  have hlt : t * 1000000 < ((s * 1000000).floor + 1 : Int) := by
    rw [hresolution] at h
    push_cast
    linarith
  have hle : (t * 1000000).floor ≤ (s * 1000000).floor :=
    Int.lt_add_one_iff.1 (Rat.floor_lt_iff.2 hlt)
  exact div_le_div_of_nonneg_right (Int.cast_le.2 hle) (by norm_num)

/-! ## What can be seen, and when -/

/-- What comes of something done at an instant, with the instant at which it can be seen. -/
def Reaction.stamp (now : Instant) (r : Reaction S J E) : Reaction S J (Instant × E) where
  state := r.state
  events := r.events.map (Prod.mk now)
  ready := r.ready
  timers := r.timers

/-- A machine that does the same jobs, and shows when each thing can be seen. -/
def Machine.stamped (m : Machine S J E) : Machine S J (Instant × E) where
  handle := fun now j s => (m.handle now j s).stamp now
  weight := m.weight
  lighter := m.lighter

lemma Machine.IsTimely.stamped {m : Machine S J E} (hm : m.IsTimely) : m.stamped.IsTimely := hm

namespace Excerpt

variable {x : Excerpt S J E}

/-- An excerpt that is about the same things, whenever they can be seen. -/
def stamped (x : Excerpt S J E) : Excerpt S J (Instant × E) where
  leaves := x.leaves
  admits := x.admits
  job? := x.job?
  isAbout := fun shown => x.isAbout shown.2

lemma Follows.stamp {s : S} {r r' : Reaction S J E} (h : x.Follows s r r') (now : Instant) :
    x.stamped.Follows s (r.stamp now) (r'.stamp now) where
  state := h.state
  events := by
    have hevents := congrArg (List.map (Prod.mk now)) h.events
    simp only [Reaction.stamp, List.filter_map]
    exact hevents
  ready := h.ready
  timers := h.timers
  admits := h.admits
  keeps := h.keeps

lemma IsKeptBy.stamped {m : Machine S J E} (hm : x.IsKeptBy m) : x.stamped.IsKeptBy m.stamped := by
  intro now j s s' hs hj
  have h := (hm now j s s' hs hj).stamp now
  have helim : ((x.job? s j).elim { state := s' } (m.handle now · s')).stamp now =
      (x.job? s j).elim { state := s' } (m.stamped.handle now · s') := by
    cases x.job? s j <;> rfl
  rw [helim] at h
  exact h

lemma Shows.stamped {l l' : EventLoop S J} (hl : x.Shows l l') : x.stamped.Shows l l' :=
  ⟨hl.state, hl.ready, hl.timers, hl.admits⟩

end Excerpt

/-! ## Stopping on the way -/

namespace EventLoop

variable {m : Machine S J E} {now limit : Instant} {l : EventLoop S J}

private lemma ite_lt_eq_of_le (h : now ≤ limit) : (if now < limit then limit else now) = limit := by
  split
  · rfl
  · next hnot => exact le_antisymm h (not_lt.1 hnot)

variable [Platform]

omit [Platform] in
private lemma doJobs_stamped (m : Machine S J E) (now : Instant) (s : S) (js : List J) :
    doJobs m.stamped now s js = (doJobs m now s js).stamp now := by
  induction js generalizing s with
  | nil => rfl
  | cons j js ih =>
    have hstate : (m.stamped.handle now j s).state = (m.handle now j s).state := rfl
    rw [doJobs, doJobs, hstate, ih]
    simp only [Reaction.stamp, Machine.stamped, List.map_append]

/-- A round of the stamped machine is a round of the machine, and shows the same. -/
lemma round_stamped (m : Machine S J E) (now : Instant) (l : EventLoop S J) :
    round m.stamped now l = ((round m now l).1, (round m now l).2.map (Prod.mk now)) := by
  rw [round, doJobs_stamped]
  rfl

/-- A run of the stamped machine goes where the machine goes, and shows the same. -/
theorem run_stamped (m : Machine S J E) (limit : Instant) (l : EventLoop S J) :
    (run m.stamped limit l).1 = (run m limit l).1 ∧
      (run m.stamped limit l).2.map Prod.snd = (run m limit l).2 := by
  induction l using run_induction m limit with
  | rest l hrest =>
    rw [run_of_rest m hrest, run_of_rest m.stamped hrest]
    exact ⟨rfl, rfl⟩
  | round l now hround ih =>
    rw [run_of_round m hround, run_of_round m.stamped hround, round_stamped]
    refine ⟨ih.1, ?_⟩
    rw [List.map_append, ih.2, List.map_map]
    exact congrArg (· ++ _) (List.map_id _)

/-- When there is nothing to do at an instant, it makes no difference whether the loop has looked at
the time then. -/
lemma run_looked (m : Machine S J E) (h : batch now l = []) (hl : l.now ≤ now)
    (hlimit : now ≤ limit) : run m limit { l with now := now } = run m limit l := by
  have htime : roundTime? limit { l with now := now } = roundTime? limit l := by
    obtain ⟨hready, -⟩ := List.append_eq_nil_iff.1 h
    simp only [roundTime?, hready, List.isEmpty_nil, Bool.not_true, Bool.false_eq_true, if_false]
    cases htimers : l.timers with
    | nil => rfl
    | cons t ts =>
      have hlater := head_not_isDueAt_of_batch htimers h
      have hnow : t.due.isDueAt l.now = false := Bool.eq_false_iff.2 fun hdue => by
        rw [Due.isDueAt_mono hl hdue] at hlater
        cases hlater
      simp only [nextDue?, hlater, hnow, Bool.false_eq_true, if_false]
  cases hround : roundTime? limit l with
  | none =>
    rw [run_of_rest m hround, run_of_rest m (htime.trans hround)]
    dsimp only
    rw [ite_lt_eq_of_le hlimit, ite_lt_eq_of_le (hl.trans hlimit)]
  | some t =>
    rw [run_of_round m hround, run_of_round m (htime.trans hround)]
    rfl

/-- A round before a stop is a round before the limit. -/
private lemma roundTime?_of_stop (hticks : Platform.Ticks) {stop : Instant}
    (hstop : Platform.clock stop = stop) (hlimit : stop ≤ limit)
    (h : roundTime? stop l = some now) : roundTime? limit l = some now := by
  rcases roundTime?_cases h with ⟨rfl, hready⟩ | ⟨hready, hnext⟩
  · exact roundTime?_of_batch_ne_nil (batch_ne_nil h)
  · obtain ⟨t, ts, htimers, ⟨hnow, rfl⟩ | ⟨hnow, hdue, d, hd, rfl⟩⟩ := nextDue?_cases hnext
    · exact roundTime?_of_batch_ne_nil (batch_ne_nil h)
    · -- when the timer falls due the clock shows no more than the stop
      have hlt : d < Platform.clock stop + Platform.resolution := by
        rw [hd] at hdue
        rw [hstop]
        exact of_decide_eq_true hdue
      have hclock := hticks stop d hlt
      rw [hstop] at hclock
      rw [roundTime?_of_at hready htimers hd hnow (Due.isDueAt_mono hlimit hdue),
        if_neg (not_lt.2 hclock), if_neg (not_lt.2 (hclock.trans hlimit))]

/-- Stopping at a reading of the clock makes no difference. -/
theorem run_run (hticks : Platform.Ticks) (m : Machine S J E) {stop : Instant}
    (hstop : Platform.clock stop = stop) (hl : l.now ≤ stop) (hlimit : stop ≤ limit) :
    run m limit l = ((run m limit (run m stop l).1).1,
      (run m stop l).2 ++ (run m limit (run m stop l).1).2) := by
  induction l using run_induction m stop with
  | rest l hrest =>
    -- a loop that rests has nothing to do at the stop
    have hbatch := (roundTime?_eq_none_iff hl).1 hrest
    rw [run_of_rest m hrest, ite_lt_eq_of_le hl, run_looked m hbatch hl hlimit, List.nil_append]
  | round l now hround ih =>
    have hlimit' := roundTime?_of_stop hticks hstop hlimit hround
    rw [run_of_round m hround, run_of_round m hlimit', ih (roundTime?_le_limit hround hl),
      List.append_assoc]

end EventLoop

/-! ## Leaving jobs out -/

namespace Excerpt

variable [Platform] {x : Excerpt S J E} {m : Machine S J E} {now limit : Instant}
  {l l' : EventLoop S J}

/-- An excerpt that has something to do in a round of the loop does a round then. -/
lemma Shows.roundTime? (hticks : Platform.Ticks) (hl : x.Shows l l') (hnow : l'.now = l.now)
    (hts : EventLoop.InOrder l.timers) (hlimit : l.now ≤ limit)
    (hround : l.roundTime? limit = some now) (hbatch : EventLoop.batch now l' ≠ []) :
    l'.roundTime? limit = some now := by
  have hat : now = l.now → l'.roundTime? limit = some now := by
    rintro rfl
    rw [← hnow] at hbatch ⊢
    exact EventLoop.roundTime?_of_batch_ne_nil hbatch
  rcases EventLoop.roundTime?_cases hround with ⟨heq, -⟩ | ⟨hready, hnext⟩
  · exact hat heq
  obtain ⟨t, ts, htimers, ⟨-, heq⟩ | ⟨hstart, -, d, hd, heq⟩⟩ := EventLoop.nextDue?_cases hnext
  · exact hat heq
  have hready' : l'.ready = [] := by rw [hl.ready, hready, List.filterMap_nil]
  rw [EventLoop.batch, hready', List.nil_append, ne_eq, List.map_eq_nil_iff] at hbatch
  -- the excerpt has a timer in front that is due in the round, and falls due no earlier
  obtain ⟨u, us, htimers', hdue⟩ := EventLoop.exists_of_dueAt_ne_nil hbatch
  obtain ⟨v, hv, hvu⟩ := List.mem_filterMap.1 (hl.timers ▸ htimers' ▸ List.mem_cons_self)
  have hsame := keepsDue_timer? x l.state v u hvu
  rw [htimers] at hts hv
  have hlater := hts.not_isBefore v hv
  have horderly := hts.orderly v hv
  rw [← hsame] at hlater horderly
  have hstart' : u.due.isDueAt l'.now = false := by
    rw [hnow, Bool.eq_false_iff]
    intro hdue'
    rw [Due.isDueAt_of_not_isBefore hlater horderly hdue'] at hstart
    cases hstart
  have hlimit' := Due.isDueAt_mono (EventLoop.roundTime?_le_limit hround hlimit) hdue
  cases hd' : u.due with
  | «at» d' =>
    rw [EventLoop.roundTime?_of_at hready' htimers' hd' hstart' hlimit', heq]
    rw [hd, hd'] at hlater
    have hclock := hticks.clock_mono (not_lt.1 (of_decide_eq_false hlater))
    by_cases hlt : limit < Platform.clock d
    · rw [if_pos hlt, if_pos (hlt.trans_le hclock)]
    · rw [if_neg hlt] at heq ⊢
      rw [hd', heq] at hdue
      have hclock' := hticks d d' (of_decide_eq_true hdue)
      rw [le_antisymm hclock' hclock, if_neg hlt]
  | never => rw [hd'] at hdue; cases hdue
  | atOnce => rw [hd'] at hstart'; cases hstart'
  | unordered => exact absurd hd' horderly

/-- **Excerpts keep time.** An excerpt works until an instant like its loop, and shows the same of
what it is about. -/
theorem Shows.run (hticks : Platform.Ticks) (hm : x.IsKeptBy m) (htimely : m.IsTimely)
    (hl : x.Shows l l') (hnow : l'.now = l.now) (hts : EventLoop.InOrder l.timers)
    (hlimit : l.now ≤ limit) :
    x.Shows (EventLoop.run m limit l).1 (EventLoop.run m limit l').1 ∧
      (EventLoop.run m limit l').2.filter x.isAbout =
        (EventLoop.run m limit l).2.filter x.isAbout := by
  induction l using EventLoop.run_induction m limit generalizing l' with
  | rest l hrest =>
    -- nothing is due in the excerpt either
    have hrest' : l'.roundTime? limit = none := by
      rw [EventLoop.roundTime?_eq_none_iff (hnow ▸ hlimit), hl.batch hts,
        (EventLoop.roundTime?_eq_none_iff hlimit).1 hrest, List.filterMap_nil]
    rw [EventLoop.run_of_rest m hrest, EventLoop.run_of_rest m hrest']
    exact ⟨⟨hl.state, hl.ready, hl.timers, hl.admits⟩, rfl⟩
  | round l now hround ih =>
    obtain ⟨hshows, hevents⟩ := hl.round hm htimely now hts
    obtain ⟨hafter, hlater⟩ := ih hshows rfl (hts.round htimely now)
      (EventLoop.roundTime?_le_limit hround hlimit)
    rw [EventLoop.run_of_round m hround, List.filter_append]
    by_cases hbatch : EventLoop.batch now l' = []
    · -- the excerpt sleeps through the round
      have hle : l'.now ≤ now := hnow ▸ EventLoop.le_roundTime? hround hlimit
      rw [EventLoop.round_of_batch_eq_nil m hbatch] at hevents hafter hlater
      rw [EventLoop.run_looked m hbatch hle (EventLoop.roundTime?_le_limit hround hlimit)]
        at hafter hlater
      exact ⟨hafter, by rw [← hevents, hlater]; rfl⟩
    · have hround' := hl.roundTime? hticks hnow hts hlimit hround hbatch
      rw [EventLoop.run_of_round m hround', List.filter_append, hevents, hlater]
      exact ⟨hafter, rfl⟩

end Excerpt

end Mermaid
