import Mathlib.Data.List.Basic
import Mermaid.Proofs.EventLoop.Timing

/-!
# Excerpts of a loop

Some jobs of a loop may have nothing to do with the others. An excerpt of the loop leaves them out
and works on a state of its own. When each job does to the excerpt what is left of what it does to
the loop, rounds at the same instants keep it an excerpt, and show the same of what it is about.

* `Excerpt` says what is left of a state, of a job and of what can be seen;
* `Excerpt.Follows` compares what comes of a job or a call, and `Excerpt.IsKeptBy` all jobs of a
  machine;
* `EventLoop.filterMap_addTimers` says that the timers that are left fall due in the same order;
* `Excerpt.Shows.round` and `Excerpt.Shows.absorb` are the steps of a loop and its excerpt.
-/

namespace Mermaid

variable {S J E : Type}

/-! ## Timers that are left out -/

namespace EventLoop

/-- Whether timers are left out, or fall due when they did before. -/
def KeepsDue (f : Timer J → Option (Timer J)) : Prop := ∀ t u, f t = some u → u.due = t.due

variable {f : Timer J → Option (Timer J)}

/-- A timer that falls due before all others comes first. -/
private lemma insertTimer_of_isBefore {t : Timer J} {ts : List (Timer J)}
    (hts : ∀ u ∈ ts, t.due.isBefore u.due = true) : insertTimer t ts = t :: ts := by
  cases ts with
  | nil => rfl
  | cons u us => rw [insertTimer, if_pos (hts u List.mem_cons_self)]

/-- A timer that is put in its place is put there among those that are left, if it is left. -/
private lemma filterMap_insertTimer (hf : KeepsDue f) {ts : List (Timer J)} (hts : InOrder ts)
    (t : Timer J) : (insertTimer t ts).filterMap f =
      (f t).elim (ts.filterMap f) (insertTimer · (ts.filterMap f)) := by
  induction ts with
  | nil => cases h : f t <;> simp [insertTimer, h]
  | cons u us ih =>
    rw [insertTimer]
    split
    · next hbefore =>
      cases ht : f t with
      | none => rw [List.filterMap_cons_none ht, Option.elim_none]
      | some t' =>
        -- the new timer falls due before all that are left
        have hfirst : ∀ v' ∈ (u :: us).filterMap f, t'.due.isBefore v'.due = true := by
          intro v' hv'
          obtain ⟨v, hv, hfv⟩ := List.mem_filterMap.1 hv'
          rw [hf t t' ht, hf v v' hfv]
          exact Due.isBefore_of_not_isBefore hbefore (hts.not_isBefore v hv) (hts.orderly v hv)
        rw [List.filterMap_cons_some ht, Option.elim_some, insertTimer_of_isBefore hfirst]
    · next hnot =>
      cases hfu : f u with
      | none => rw [List.filterMap_cons_none hfu, List.filterMap_cons_none hfu, ih hts.tail]
      | some u' =>
        rw [List.filterMap_cons_some hfu, List.filterMap_cons_some hfu, ih hts.tail]
        cases ht : f t with
        | none => rfl
        | some t' =>
          rw [Option.elim_some, Option.elim_some, insertTimer, hf t t' ht, hf u u' hfu,
            if_neg hnot]

/-- Timers that are left when some are left out stand in the same order. -/
lemma filterMap_addTimers (hf : KeepsDue f) {new ts : List (Timer J)} (hts : InOrder ts)
    (hnew : IsOrderly new) :
    (addTimers new ts).filterMap f = addTimers (new.filterMap f) (ts.filterMap f) := by
  induction new generalizing ts with
  | nil => rfl
  | cons t new ih =>
    obtain ⟨ht, hnew⟩ := List.forall_mem_cons.1 hnew
    rw [addTimers_cons, ih (hts.insertTimer ht) hnew, filterMap_insertTimer hf hts]
    cases hft : f t with
    | none => rw [List.filterMap_cons_none hft, Option.elim_none]
    | some t' => rw [List.filterMap_cons_some hft, Option.elim_some, addTimers_cons]

lemma InOrder.filterMap {ts : List (Timer J)} (hts : InOrder ts) (hf : KeepsDue f) :
    InOrder (ts.filterMap f) where
  orderly := by
    intro u hu
    obtain ⟨t, ht, htu⟩ := List.mem_filterMap.1 hu
    rw [hf t u htu]
    exact hts.orderly t ht
  pairwise := by
    refine List.Pairwise.filterMap f (fun t u htu t' ht' u' hu' => ?_) hts.pairwise
    rw [hf t t' ht', hf u u' hu']
    exact htu

private lemma filter_due_filterMap (hf : KeepsDue f) (p : Due → Bool) (ts : List (Timer J)) :
    (ts.filterMap f).filter (fun t => p t.due) = (ts.filter fun t => p t.due).filterMap f := by
  rw [List.filter_filterMap, List.filterMap_filter]
  congr 1
  funext t
  cases ht : f t with
  | none => simp
  | some u =>
    have hdue := hf t u ht
    simp only [Option.filter_some, hdue]

lemma filterMap_dueAt [Platform] (hf : KeepsDue f) (now : Instant) {ts : List (Timer J)}
    (hts : InOrder ts) : dueAt now (ts.filterMap f) = (dueAt now ts).filterMap f := by
  rw [(hts.filterMap hf).dueAt_eq, hts.dueAt_eq, filter_due_filterMap hf (Due.isDueAt now)]

lemma filterMap_laterThan [Platform] (hf : KeepsDue f) (now : Instant) {ts : List (Timer J)}
    (hts : InOrder ts) : laterThan now (ts.filterMap f) = (laterThan now ts).filterMap f := by
  rw [(hts.filterMap hf).laterThan_eq, hts.laterThan_eq,
    filter_due_filterMap hf (fun due => !due.isDueAt now)]

end EventLoop

/-! ## Excerpts -/

/-- What an excerpt of a loop keeps. -/
structure Excerpt (S J E : Type) where
  /-- Whether a state is left of another one. -/
  leaves : S → S → Prop
  /-- Whether a job may be left to do in a state. -/
  admits : S → J → Prop
  /-- What is left of a job. -/
  job? : S → J → Option J
  /-- Whether the excerpt is about something that can be seen. -/
  isAbout : E → Bool

namespace Excerpt

variable {x : Excerpt S J E} {s s' : S}

/-- What is left of a timer. -/
def timer? (x : Excerpt S J E) (s : S) (t : Timer J) : Option (Timer J) :=
  (x.job? s t.job).map fun j => ⟨t.due, j⟩

/-- Whether what comes of something done to a state is left of what comes of it in the loop. The
jobs from before are still admitted, and the same is left of them. -/
structure Follows (x : Excerpt S J E) (s : S) (r r' : Reaction S J E) : Prop where
  state : x.leaves r.state r'.state
  events : r'.events.filter x.isAbout = r.events.filter x.isAbout
  ready : r'.ready = r.ready.filterMap (x.job? r.state)
  timers : r'.timers = r.timers.filterMap (x.timer? r.state)
  admits : ∀ j ∈ r.jobs, x.admits r.state j
  keeps : ∀ j, x.admits s j → x.admits r.state j ∧ x.job? r.state j = x.job? s j

/-- Whether each job of a machine does to an excerpt what is left of what it does to a loop; a job
of which nothing is left does nothing. -/
def IsKeptBy (x : Excerpt S J E) (m : Machine S J E) : Prop :=
  ∀ now j s s', x.leaves s s' → x.admits s j →
    x.Follows s (m.handle now j s) ((x.job? s j).elim { state := s' } (m.handle now · s'))

lemma keepsDue_timer? (x : Excerpt S J E) (s : S) : EventLoop.KeepsDue (x.timer? s) := by
  intro t u ht
  obtain ⟨j, -, rfl⟩ := Option.map_eq_some_iff.1 ht
  rfl

/-- Nothing is done to the loop, and nothing to the excerpt. -/
lemma Follows.unchanged (hs : x.leaves s s') : x.Follows s { state := s } { state := s' } where
  state := hs
  events := rfl
  ready := rfl
  timers := rfl
  admits := nofun
  keeps := fun _ hj => ⟨hj, rfl⟩

/-- One thing is done after another. -/
lemma Follows.trans {r₁ r₁' r₂ r₂' : Reaction S J E} (h₁ : x.Follows s r₁ r₁')
    (h₂ : x.Follows r₁.state r₂ r₂') :
    x.Follows s
      { state := r₂.state, events := r₁.events ++ r₂.events, ready := r₁.ready ++ r₂.ready
        timers := r₁.timers ++ r₂.timers }
      { state := r₂'.state, events := r₁'.events ++ r₂'.events, ready := r₁'.ready ++ r₂'.ready
        timers := r₁'.timers ++ r₂'.timers } where
  state := h₂.state
  events := by rw [List.filter_append, List.filter_append, h₁.events, h₂.events]
  ready := by
    have hold : r₁.ready.filterMap (x.job? r₂.state) = r₁.ready.filterMap (x.job? r₁.state) :=
      List.filterMap_congr fun j hj => (h₂.keeps j (h₁.admits j (List.mem_append_left _ hj))).2
    dsimp only
    rw [List.filterMap_append, hold, h₁.ready, h₂.ready]
  timers := by
    have hold : r₁.timers.filterMap (x.timer? r₂.state) =
        r₁.timers.filterMap (x.timer? r₁.state) := by
      refine List.filterMap_congr fun t ht => ?_
      have hjob := h₁.admits t.job (List.mem_append_right _ (List.mem_map_of_mem ht))
      rw [timer?, timer?, (h₂.keeps t.job hjob).2]
    dsimp only
    rw [List.filterMap_append, hold, h₁.timers, h₂.timers]
  admits := by
    intro j hj
    have hcases : j ∈ r₁.jobs ∨ j ∈ r₂.jobs := by
      simp only [Reaction.jobs, List.map_append, List.mem_append] at hj ⊢
      tauto
    rcases hcases with hold | hnew
    · exact (h₂.keeps j (h₁.admits j hold)).1
    · exact h₂.admits j hnew
  keeps := by
    intro j hj
    obtain ⟨hadmits, hsame⟩ := h₁.keeps j hj
    exact ⟨(h₂.keeps j hadmits).1, (h₂.keeps j hadmits).2.trans hsame⟩

/-- Jobs are done one after the other. -/
lemma IsKeptBy.doJobs {m : Machine S J E} (hm : x.IsKeptBy m) (now : Instant) (js : List J)
    (hs : x.leaves s s') (hjs : ∀ j ∈ js, x.admits s j) :
    x.Follows s (EventLoop.doJobs m now s js)
      (EventLoop.doJobs m now s' (js.filterMap (x.job? s))) := by
  induction js generalizing s s' with
  | nil => exact .unchanged hs
  | cons j js ih =>
    have hfirst := hm now j s s' hs (hjs j List.mem_cons_self)
    -- the other jobs are still admitted, and the same is left of them
    have hkeeps := fun k hk => hfirst.keeps k (hjs k (List.mem_cons_of_mem j hk))
    have hrest := ih hfirst.state fun k hk => (hkeeps k hk).1
    rw [List.filterMap_congr fun k hk => (hkeeps k hk).2] at hrest
    have hboth := hfirst.trans hrest
    cases hj : x.job? s j with
    | none =>
      rw [hj, Option.elim_none] at hboth
      rw [List.filterMap_cons_none hj]
      exact hboth
    | some j' =>
      rw [hj, Option.elim_some] at hboth
      rw [List.filterMap_cons_some hj]
      exact hboth

/-! ## Loops -/

/-- Whether a loop is an excerpt of another one. -/
structure Shows (x : Excerpt S J E) (l l' : EventLoop S J) : Prop where
  state : x.leaves l.state l'.state
  ready : l'.ready = l.ready.filterMap (x.job? l.state)
  timers : l'.timers = l.timers.filterMap (x.timer? l.state)
  admits : ∀ j ∈ l.jobs, x.admits l.state j

variable {l l' : EventLoop S J}

/-- What comes of something done to a loop and its excerpt keeps the excerpt, and so do new timers
among those from before. -/
private lemma Shows.of_follows {r r' : Reaction S J E} {ready ready' : List J}
    {timers timers' : List (Timer J)} (hr : x.Follows l.state r r')
    (hready : ready' = ready.filterMap (x.job? l.state))
    (htimers : timers' = timers.filterMap (x.timer? l.state))
    (hadmits : ∀ j ∈ ready ++ timers.map Timer.job, x.admits l.state j)
    (hts : EventLoop.InOrder timers) (hnew : EventLoop.IsOrderly r.timers) (now : Instant) :
    x.Shows ⟨r.state, now, ready ++ r.ready, EventLoop.addTimers r.timers timers⟩
      ⟨r'.state, now, ready' ++ r'.ready, EventLoop.addTimers r'.timers timers'⟩ where
  state := hr.state
  ready := by
    have hold : ready.filterMap (x.job? r.state) = ready.filterMap (x.job? l.state) :=
      List.filterMap_congr fun j hj => (hr.keeps j (hadmits j (List.mem_append_left _ hj))).2
    dsimp only
    rw [List.filterMap_append, hold, hready, hr.ready]
  timers := by
    have hold : timers.filterMap (x.timer? r.state) = timers.filterMap (x.timer? l.state) := by
      refine List.filterMap_congr fun t ht => ?_
      have hjob := hadmits t.job (List.mem_append_right _ (List.mem_map_of_mem ht))
      rw [timer?, timer?, (hr.keeps t.job hjob).2]
    dsimp only
    rw [EventLoop.filterMap_addTimers (keepsDue_timer? x r.state) hts hnew, hold, htimers,
      hr.timers]
  admits := by
    intro j hj
    have hcases : j ∈ ready ++ timers.map Timer.job ∨ j ∈ r.jobs := by
      simp only [EventLoop.jobs, List.mem_append, List.mem_map, EventLoop.mem_addTimers] at hj
      rcases hj with (hold | hnew) | ⟨t, hnew | hold, rfl⟩
      · exact .inl (List.mem_append_left _ hold)
      · exact .inr (List.mem_append_left _ hnew)
      · exact .inr (List.mem_append_right _ (List.mem_map_of_mem hnew))
      · exact .inl (List.mem_append_right _ (List.mem_map_of_mem hold))
    rcases hcases with hold | hnew
    · exact (hr.keeps j (hadmits j hold)).1
    · exact hr.admits j hnew

/-- A call from outside keeps a loop an excerpt. -/
lemma Shows.absorb (hl : x.Shows l l') (hnow : l'.now = l.now) {r r' : Reaction S J E}
    (hr : x.Follows l.state r r') (hts : EventLoop.InOrder l.timers)
    (hnew : EventLoop.IsOrderly r.timers) :
    x.Shows (EventLoop.absorb r l).1 (EventLoop.absorb r' l').1 := by
  rw [EventLoop.absorb, EventLoop.absorb, hnow]
  exact .of_follows hr hl.ready hl.timers hl.admits hts hnew l.now

/-- What is left of the jobs of a round are the jobs of a round of the excerpt. -/
lemma Shows.batch [Platform] (hl : x.Shows l l') (hts : EventLoop.InOrder l.timers)
    (now : Instant) :
    EventLoop.batch now l' = (EventLoop.batch now l).filterMap (x.job? l.state) := by
  have htimers : ∀ ts : List (Timer J), (ts.filterMap (x.timer? l.state)).map Timer.job =
      (ts.map Timer.job).filterMap (x.job? l.state) := by
    intro ts
    rw [List.map_filterMap, List.filterMap_map]
    congr 1
    funext t
    simp [timer?, Function.comp_def]
  rw [EventLoop.batch, hl.ready, hl.timers,
    EventLoop.filterMap_dueAt (keepsDue_timer? x l.state) now hts, htimers, EventLoop.batch,
    List.filterMap_append]

/-- **Excerpts work like their loops.** A round at the same instant keeps a loop an excerpt, and
shows the same of what it is about. -/
theorem Shows.round [Platform] {m : Machine S J E} (hm : x.IsKeptBy m) (htimely : m.IsTimely)
    (now : Instant) (hl : x.Shows l l') (hts : EventLoop.InOrder l.timers) :
    x.Shows (EventLoop.round m now l).1 (EventLoop.round m now l').1 ∧
      (EventLoop.round m now l').2.filter x.isAbout =
        (EventLoop.round m now l).2.filter x.isAbout := by
  have hjobs := EventLoop.jobs_eq_batch now l
  have hbatch : ∀ j ∈ EventLoop.batch now l, x.admits l.state j := fun j hj =>
    hl.admits j (hjobs ▸ List.mem_append_left _ hj)
  have hlater : ∀ j ∈ (EventLoop.laterThan now l.timers).map Timer.job, x.admits l.state j :=
    fun j hj => hl.admits j (hjobs ▸ List.mem_append_right _ hj)
  have hdone := hm.doJobs now (EventLoop.batch now l) hl.state hbatch
  rw [← hl.batch hts now] at hdone
  -- the timers that are not due yet stay as they are
  have hleft : EventLoop.laterThan now l'.timers =
      (EventLoop.laterThan now l.timers).filterMap (x.timer? l.state) := by
    rw [hl.timers]
    exact EventLoop.filterMap_laterThan (keepsDue_timer? x l.state) now hts
  have hready : ([] : List J) = ([] : List J).filterMap (x.job? l.state) := rfl
  exact ⟨.of_follows hdone hready hleft hlater (hts.laterThan now)
    (htimely.doJobs now _ _) now, hdone.events⟩

end Excerpt

end Mermaid
