import Mathlib.Algebra.Order.Ring.Rat
import Mathlib.Tactic.Linarith
import Mermaid.Proofs.EventLoop.Schedule

/-!
# When jobs are done

An event loop lets time pass up to the next timer and no further, so no timer falls due unnoticed,
and a timer whose time has come is worked off before the loop rests. Which jobs are done, and when,
is found by making the jobs of a machine what can be seen of it.

* `Machine.traced` shows its jobs, and `EventLoop.run_traced` says that it works like the machine;
* `EventLoop.InOrder` says that timers stand in the order they fall due, and what a loop does to its
  timers leaves them so;
* `EventLoop.not_isDueAt_of_roundTime?` says that a loop which rests has no timer left that is due;
* `EventLoop.roundTime?_le_due` says that no round passes over a timer;
* `EventLoop.round_of_batch_eq_nil` says that a round without a job does nothing.
-/

namespace Mermaid

variable {S J E : Type}

/-! ## When timers fall due -/

namespace Due

lemma isBefore_trans {a b c : Due} (hab : a.isBefore b = true) (hbc : b.isBefore c = true) :
    a.isBefore c = true := by
  cases a <;> cases b <;> cases c <;> simp only [isBefore, decide_eq_true_eq] at hab hbc ⊢
  all_goals first | exact hab.trans hbc | contradiction

lemma not_isBefore_of_isBefore {a b : Due} (hab : a.isBefore b = true) :
    b.isBefore a = false := by
  cases a <;> cases b <;> simp only [isBefore, decide_eq_true_eq, decide_eq_false_iff_not,
    not_lt] at hab ⊢
  all_goals first | exact hab.le | contradiction

lemma not_isBefore_self (a : Due) : a.isBefore a = false := by
  cases a <;> simp [isBefore]

/-- What falls due before a timer falls due before all that do not fall due before that one. -/
lemma isBefore_of_not_isBefore {a b c : Due} (hab : a.isBefore b = true)
    (hcb : c.isBefore b = false) (hc : c ≠ .unordered) : a.isBefore c = true := by
  cases a <;> cases b <;> cases c <;> simp only [isBefore, decide_eq_true_eq,
    decide_eq_false_iff_not, not_lt] at hab hcb ⊢
  all_goals first | exact hab.trans_le hcb | contradiction

/-- A timer that does not fall due before another one is not due unless the other one is. -/
lemma isDueAt_of_not_isBefore [Platform] {a b : Due} (hab : a.isBefore b = false)
    (ha : a ≠ .unordered) {now : Instant} (hdue : a.isDueAt now = true) :
    b.isDueAt now = true := by
  cases a <;> cases b <;> simp only [isBefore, isDueAt, decide_eq_true_eq, decide_eq_false_iff_not,
    not_lt] at hab hdue ⊢
  all_goals first | exact hab.trans_lt hdue | contradiction

/-- What is due stays due. -/
lemma isDueAt_mono [Platform] {a : Due} {now later : Instant} (hle : now ≤ later)
    (hdue : a.isDueAt now = true) : a.isDueAt later = true := by
  cases a with
  | «at» t =>
    exact decide_eq_true ((of_decide_eq_true hdue).trans_le (add_le_add_left hle _))
  | _ => exact hdue

/-- A timer that is set for a number of seconds falls due at a time that stands in order. -/
lemma after_ne_unordered {x : Binary64} (hx : x ≠ .nan) (now : Instant) :
    after now x ≠ .unordered := by
  unfold after
  split
  · exact absurd rfl hx
  · split <;> nofun
  · split <;> nofun

end Due

namespace EventLoop

/-- Whether timers fall due at times that stand in order with each other. -/
def IsOrderly (ts : List (Timer J)) : Prop := ∀ t ∈ ts, t.due ≠ .unordered

lemma isOrderly_nil : IsOrderly ([] : List (Timer J)) := List.forall_mem_nil _

/-- Whether timers stand in the order they fall due. -/
structure InOrder (ts : List (Timer J)) : Prop where
  orderly : IsOrderly ts
  pairwise : ts.Pairwise fun t u => u.due.isBefore t.due = false

lemma InOrder.nil : InOrder ([] : List (Timer J)) := ⟨nofun, .nil⟩

lemma InOrder.tail {t : Timer J} {ts : List (Timer J)} (hts : InOrder (t :: ts)) : InOrder ts :=
  ⟨fun u hu => hts.orderly u (List.mem_cons_of_mem t hu), (List.pairwise_cons.1 hts.pairwise).2⟩

/-- No timer falls due before the first one. -/
lemma InOrder.not_isBefore {t : Timer J} {ts : List (Timer J)} (hts : InOrder (t :: ts)) :
    ∀ u ∈ t :: ts, u.due.isBefore t.due = false := by
  intro u hu
  rcases List.mem_cons.1 hu with rfl | hlater
  · exact Due.not_isBefore_self u.due
  · exact (List.pairwise_cons.1 hts.pairwise).1 u hlater

/-- A timer that is put in its place leaves the others in order. -/
lemma InOrder.insertTimer {ts : List (Timer J)} (hts : InOrder ts) {t : Timer J}
    (ht : t.due ≠ .unordered) : InOrder (insertTimer t ts) := by
  refine ⟨fun u hu => ?_, ?_⟩
  · rcases List.mem_cons.1 ((perm_insertTimer t ts).mem_iff.1 hu) with rfl | hold
    · exact ht
    · exact hts.orderly u hold
  · induction ts with
    | nil => exact List.pairwise_singleton _ t
    | cons u us ih =>
      have hu := (List.pairwise_cons.1 hts.pairwise).1
      rw [EventLoop.insertTimer]
      split
      · next hbefore =>
        refine List.pairwise_cons.2 ⟨fun v hv => ?_, hts.pairwise⟩
        rcases List.mem_cons.1 hv with rfl | hold
        · exact Due.not_isBefore_of_isBefore hbefore
        · -- what falls due before the new timer would fall due before the one behind it
          refine Bool.eq_false_iff.2 fun hv' => ?_
          cases (Due.isBefore_trans hv' hbefore).symm.trans (hu v hold)
      · next hnot =>
        refine List.pairwise_cons.2 ⟨fun v hv => ?_, ih hts.tail⟩
        rcases List.mem_cons.1 ((perm_insertTimer t us).mem_iff.1 hv) with rfl | hold
        · exact Bool.eq_false_iff.2 hnot
        · exact hu v hold

lemma InOrder.addTimers {new ts : List (Timer J)} (hts : InOrder ts) (hnew : IsOrderly new) :
    InOrder (addTimers new ts) := by
  induction new generalizing ts with
  | nil => exact hts
  | cons t new ih =>
    obtain ⟨ht, hnew⟩ := List.forall_mem_cons.1 hnew
    exact ih (hts.insertTimer ht) hnew

lemma mem_addTimers {new ts : List (Timer J)} {t : Timer J} :
    t ∈ addTimers new ts ↔ t ∈ new ∨ t ∈ ts := by
  rw [(perm_addTimers new ts).mem_iff, List.mem_append]

section Due

variable [Platform] {ts : List (Timer J)} {now : Instant}

lemma exists_of_dueAt_ne_nil (h : dueAt now ts ≠ []) :
    ∃ t us, ts = t :: us ∧ t.due.isDueAt now = true := by
  cases ts with
  | nil => exact absurd rfl h
  | cons t us =>
    refine ⟨t, us, rfl, ?_⟩
    by_contra hnot
    exact h (by rw [dueAt, List.takeWhile_cons, if_neg hnot])

/-- All timers that are due come before those that are not. -/
lemma InOrder.dueAt_eq (hts : InOrder ts) (now : Instant) :
    dueAt now ts = ts.filter fun t => t.due.isDueAt now := by
  rw [dueAt]
  induction ts with
  | nil => rfl
  | cons t us ih =>
    cases hdue : t.due.isDueAt now with
    | true => simp only [List.takeWhile_cons, List.filter_cons, hdue, if_true, ih hts.tail]
    | false =>
      have hlater : ∀ u ∈ us, ¬u.due.isDueAt now = true := fun u hu hdue' => by
        have hu' := List.mem_cons_of_mem t hu
        rw [Due.isDueAt_of_not_isBefore (hts.not_isBefore u hu') (hts.orderly u hu') hdue'] at hdue
        cases hdue
      simp only [List.takeWhile_cons, List.filter_cons, hdue, Bool.false_eq_true, if_false]
      exact (List.filter_eq_nil_iff.2 hlater).symm

lemma InOrder.laterThan_eq (hts : InOrder ts) (now : Instant) :
    laterThan now ts = ts.filter fun t => !t.due.isDueAt now := by
  rw [laterThan]
  induction ts with
  | nil => rfl
  | cons t us ih =>
    cases hdue : t.due.isDueAt now with
    | true =>
      simp only [List.dropWhile_cons, List.filter_cons, hdue, if_true, Bool.not_true,
        Bool.false_eq_true, if_false, ih hts.tail]
    | false =>
      have hlater : ∀ u ∈ us, (!u.due.isDueAt now) = true := fun u hu => by
        rw [Bool.not_eq_true', Bool.eq_false_iff]
        intro hdue'
        have hu' := List.mem_cons_of_mem t hu
        rw [Due.isDueAt_of_not_isBefore (hts.not_isBefore u hu') (hts.orderly u hu') hdue'] at hdue
        cases hdue
      simp only [List.dropWhile_cons, List.filter_cons, hdue, Bool.false_eq_true, if_false,
        Bool.not_false, if_true]
      rw [List.filter_eq_self.2 hlater]

lemma mem_dueAt (hts : InOrder ts) {t : Timer J} :
    t ∈ dueAt now ts ↔ t ∈ ts ∧ t.due.isDueAt now = true := by
  rw [hts.dueAt_eq, List.mem_filter]

lemma mem_laterThan (hts : InOrder ts) {t : Timer J} :
    t ∈ laterThan now ts ↔ t ∈ ts ∧ t.due.isDueAt now = false := by
  rw [hts.laterThan_eq, List.mem_filter, Bool.not_eq_true']

/-- The timers that are left are timers from before. -/
lemma subset_laterThan (now : Instant) (ts : List (Timer J)) : laterThan now ts ⊆ ts :=
  (List.dropWhile_sublist _).subset

lemma InOrder.laterThan (hts : InOrder ts) (now : Instant) : InOrder (laterThan now ts) :=
  ⟨fun t ht => hts.orderly t (subset_laterThan now ts ht),
    hts.pairwise.sublist (List.dropWhile_sublist _)⟩

end Due

variable [Platform] {m : Machine S J E} {now limit : Instant} {l : EventLoop S J}

/-- The next timer falls due now, or later and up to the limit. -/
lemma nextDue?_cases {start : Instant} {ts : List (Timer J)}
    (h : nextDue? start limit ts = some now) :
    ∃ u us, ts = u :: us ∧ ((u.due.isDueAt start = true ∧ now = start) ∨
      (u.due.isDueAt start = false ∧ u.due.isDueAt limit = true ∧ ∃ d, u.due = .at d ∧
        now = if limit < Platform.clock d then limit else Platform.clock d)) := by
  unfold nextDue? at h
  split at h
  · cases h
  · next u us =>
    refine ⟨u, us, rfl, ?_⟩
    split at h
    · next hnow => exact .inl ⟨hnow, (Option.some.inj h).symm⟩
    · next hnow =>
      rw [Bool.not_eq_true] at hnow
      split at h
      · next hlimit =>
        split at h
        · next d hd => exact .inr ⟨hnow, hlimit, d, hd, (Option.some.inj h).symm⟩
        · cases h
      · cases h

/-- A loop that has nothing to do up to an instant has no timer in front that is due then. -/
private lemma head_not_isDueAt_of_nextDue? {start : Instant} {u : Timer J} {us : List (Timer J)}
    (h : nextDue? start limit (u :: us) = none) : u.due.isDueAt limit = false := by
  unfold nextDue? at h
  dsimp only at h
  split at h
  · cases h
  · next hnow =>
    split at h
    · next hlimit =>
      -- a timer that becomes due falls due at an instant
      cases hd : u.due with
      | «at» d => rw [hd] at h; cases h
      | never => rw [hd] at hlimit; cases hlimit
      | atOnce => rw [hd] at hnow; exact absurd rfl hnow
      | unordered => rw [hd] at hnow; exact absurd rfl hnow
    · next hlimit => exact Bool.eq_false_iff.2 hlimit

/-- A loop that has nothing to do up to an instant has no timer that is due then. -/
lemma not_isDueAt_of_roundTime? (hts : InOrder l.timers) (h : roundTime? limit l = none) :
    ∀ t ∈ l.timers, t.due.isDueAt limit = false := by
  intro t ht
  unfold roundTime? at h
  split at h
  · cases h
  · cases htimers : l.timers with
    | nil => rw [htimers] at ht; cases ht
    | cons u us =>
      rw [htimers] at h ht hts
      have hhead := head_not_isDueAt_of_nextDue? h
      rw [Bool.eq_false_iff]
      intro hdue
      rw [Due.isDueAt_of_not_isBefore (hts.not_isBefore t ht) (hts.orderly t ht) hdue] at hhead
      cases hhead

/-- The time of a round is that of the loop, when there is something to do at once, or that of the
next timer. -/
lemma roundTime?_cases (h : roundTime? limit l = some now) :
    (now = l.now ∧ l.ready ≠ []) ∨ (l.ready = [] ∧ nextDue? l.now limit l.timers = some now) := by
  unfold roundTime? at h
  split at h
  · next hwork => exact .inl ⟨(Option.some.inj h).symm, by simpa using hwork⟩
  · next hwork => exact .inr ⟨by simpa using hwork, h⟩

/-- A round has something to do. -/
lemma batch_ne_nil (h : roundTime? limit l = some now) : batch now l ≠ [] := by
  intro hnil
  obtain ⟨hready, hdue⟩ := List.append_eq_nil_iff.1 hnil
  rcases roundTime?_cases h with ⟨-, hready'⟩ | ⟨-, hnext⟩
  · exact hready' hready
  · obtain ⟨u, us, htimers, hcases⟩ := nextDue?_cases hnext
    have hhead : u.due.isDueAt now = true := by
      rcases hcases with ⟨hstart, rfl⟩ | ⟨-, hlimit, d, hd, rfl⟩
      · exact hstart
      · split
        · exact hlimit
        · rw [hd]
          exact decide_eq_true (Platform.lt_clock_add d)
    rw [List.map_eq_nil_iff, dueAt, htimers, List.takeWhile_cons, if_pos hhead] at hdue
    cases hdue

/-- A loop that has something to do at once does it at once. -/
lemma roundTime?_of_batch_ne_nil (h : batch l.now l ≠ []) : roundTime? limit l = some l.now := by
  unfold roundTime?
  split
  · rfl
  · next hready =>
    have hnil : l.ready = [] := by simpa using hready
    rw [batch, hnil, List.nil_append, ne_eq, List.map_eq_nil_iff] at h
    obtain ⟨t, ts, htimers, hhead⟩ := exists_of_dueAt_ne_nil h
    simp only [nextDue?, htimers, hhead, if_true]

/-- A loop that waits for a timer does its next round when the clock shows it, or at the limit. -/
lemma roundTime?_of_at {t : Timer J} {ts : List (Timer J)} {d : Instant} (hready : l.ready = [])
    (htimers : l.timers = t :: ts) (hd : t.due = .at d) (hnow : t.due.isDueAt l.now = false)
    (hlimit : t.due.isDueAt limit = true) :
    roundTime? limit l = some (if limit < Platform.clock d then limit else Platform.clock d) := by
  simp only [roundTime?, hready, List.isEmpty_nil, Bool.not_true, Bool.false_eq_true, if_false,
    nextDue?, htimers, hnow, hlimit, if_true]
  rw [hd]

/-- In a loop that has nothing to do at an instant, no timer in front is due then. -/
lemma head_not_isDueAt_of_batch {t : Timer J} {ts : List (Timer J)} (htimers : l.timers = t :: ts)
    (h : batch now l = []) : t.due.isDueAt now = false := by
  obtain ⟨-, hdue⟩ := List.append_eq_nil_iff.1 h
  rw [List.map_eq_nil_iff, dueAt, htimers, List.takeWhile_cons] at hdue
  split at hdue
  · cases hdue
  · next hnot => exact Bool.eq_false_iff.2 hnot

/-- A loop rests until an instant when it has nothing to do then. -/
lemma roundTime?_eq_none_iff (hl : l.now ≤ limit) :
    roundTime? limit l = none ↔ batch limit l = [] := by
  constructor
  · intro h
    unfold roundTime? at h
    split at h
    · cases h
    · next hready =>
      have hnil : l.ready = [] := by simpa using hready
      cases htimers : l.timers with
      | nil => rw [batch, hnil, htimers]; rfl
      | cons t ts =>
        rw [htimers] at h
        have hhead := head_not_isDueAt_of_nextDue? h
        rw [batch, hnil, htimers, dueAt, List.takeWhile_cons, hhead]
        rfl
  · intro h
    obtain ⟨hready, -⟩ := List.append_eq_nil_iff.1 h
    unfold roundTime?
    rw [hready]
    cases htimers : l.timers with
    | nil => rfl
    | cons t ts =>
      have hlimit := head_not_isDueAt_of_batch htimers h
      have hnow : t.due.isDueAt l.now = false := Bool.eq_false_iff.2 fun hdue => by
        rw [Due.isDueAt_mono hl hdue] at hlimit
        cases hlimit
      simp [nextDue?, hnow, hlimit]

/-- A round that finds nothing to do only looks at the time. -/
lemma round_of_batch_eq_nil (m : Machine S J E) (h : batch now l = []) :
    round m now l = ({ l with now := now }, []) := by
  obtain ⟨hready, hdue⟩ := List.append_eq_nil_iff.1 h
  have hlater : laterThan now l.timers = l.timers := by
    conv_rhs => rw [← dueAt_append_laterThan now l.timers, List.map_eq_nil_iff.1 hdue]
    rfl
  rw [round, h, hlater, doJobs, hready]
  rfl

/-- No round lies beyond the limit. -/
lemma roundTime?_le_limit (h : roundTime? limit l = some now) (hl : l.now ≤ limit) :
    now ≤ limit := by
  rcases roundTime?_cases h with ⟨rfl, -⟩ | ⟨-, hnext⟩
  · exact hl
  · obtain ⟨u, us, -, ⟨-, rfl⟩ | ⟨-, -, d, -, rfl⟩⟩ := nextDue?_cases hnext
    · exact hl
    · split
      · exact le_refl limit
      · next hd => exact not_lt.1 hd

/-- No round passes over a timer. -/
lemma roundTime?_le_due (hts : InOrder l.timers) (h : roundTime? limit l = some now) {t : Timer J}
    (ht : t ∈ l.timers) {due : Instant} (hdue : t.due = .at due) (hl : l.now ≤ due) :
    now ≤ due := by
  rcases roundTime?_cases h with ⟨rfl, -⟩ | ⟨-, hnext⟩
  · exact hl
  · obtain ⟨u, us, htimers, ⟨-, rfl⟩ | ⟨-, -, d, hd, rfl⟩⟩ := nextDue?_cases hnext
    · exact hl
    · have hle : d ≤ due := by
        rw [htimers] at hts ht
        have hnot := hts.not_isBefore t ht
        rw [hd, hdue] at hnot
        exact not_lt.1 (of_decide_eq_false hnot)
      have hclock := (Platform.clock_le d).trans hle
      split
      · next hlt => exact hlt.le.trans hclock
      · exact hclock

/-- A timer that has been passed over is done at once, and no round passes over any other. -/
lemma roundTime?_le_max (hts : InOrder l.timers) (h : roundTime? limit l = some now) {t : Timer J}
    (ht : t ∈ l.timers) {due : Instant} (hdue : t.due = .at due) : now ≤ max due l.now := by
  rcases le_total l.now due with hlater | hpast
  · exact (roundTime?_le_due hts h ht hdue hlater).trans (le_max_left due l.now)
  · have hisDue : t.due.isDueAt l.now = true := by
      rw [hdue]
      exact decide_eq_true (lt_of_le_of_lt hpast (lt_add_of_pos_right _ Platform.resolution_pos))
    have hwork : batch l.now l ≠ [] := List.append_ne_nil_of_right_ne_nil _
      (List.ne_nil_of_mem (List.mem_map_of_mem ((mem_dueAt hts).2 ⟨ht, hisDue⟩)))
    rw [roundTime?_of_batch_ne_nil hwork] at h
    exact (Option.some.inj h).symm.le.trans (le_max_right due l.now)

/-- Time does not go back. -/
lemma le_roundTime? (h : roundTime? limit l = some now) (hl : l.now ≤ limit) : l.now ≤ now := by
  rcases roundTime?_cases h with ⟨rfl, -⟩ | ⟨-, hnext⟩
  · exact le_refl l.now
  · obtain ⟨u, us, -, ⟨-, rfl⟩ | ⟨hnow, -, d, hd, rfl⟩⟩ := nextDue?_cases hnext
    · exact le_refl l.now
    · rw [hd] at hnow
      have hlater : l.now + Platform.resolution ≤ d := not_lt.1 (of_decide_eq_false hnow)
      have hclock := Platform.lt_clock_add d
      split
      · exact hl
      · linarith

/-! ## Round after round -/

end EventLoop

/-- Whether the timers that jobs set stand in order. -/
def Machine.IsTimely (m : Machine S J E) : Prop :=
  ∀ (now : Instant) (j : J) (s : S), EventLoop.IsOrderly (m.handle now j s).timers

lemma Machine.IsTimely.doJobs {m : Machine S J E} (hm : m.IsTimely) (now : Instant) (s : S)
    (js : List J) : EventLoop.IsOrderly (EventLoop.doJobs m now s js).timers := by
  induction js generalizing s with
  | nil => exact nofun
  | cons j js ih =>
    intro t ht
    rcases List.mem_append.1 ht with hfirst | hrest
    · exact hm now j s t hfirst
    · exact ih _ t hrest

namespace EventLoop

variable [Platform] {m : Machine S J E} {now limit : Instant} {l : EventLoop S J}

/-- A round leaves the timers in order. -/
lemma InOrder.round (hm : m.IsTimely) (now : Instant) (hts : InOrder l.timers) :
    InOrder (round m now l).1.timers :=
  (hts.laterThan now).addTimers (hm.doJobs now l.state _)

/-- A loop that has nothing to do rests until the limit. -/
lemma run_of_rest (m : Machine S J E) (h : roundTime? limit l = none) :
    run m limit l = ({ l with now := if l.now < limit then limit else l.now }, []) := by
  rw [run, h]

/-- A loop that has something to do does a round, and works on. -/
lemma run_of_round (m : Machine S J E) (h : roundTime? limit l = some now) :
    run m limit l = ((run m limit (round m now l).1).1,
      (round m now l).2 ++ (run m limit (round m now l).1).2) := by
  have hbatch : (batch now l).length ≠ 0 := fun hnil =>
    batch_ne_nil h (List.length_eq_zero_iff.1 hnil)
  rw [run, h]
  simp only [hbatch, dite_false]

/-- What holds of a loop that rests, and of a loop before a round if it holds after it, holds of all
loops. -/
theorem run_induction (m : Machine S J E) (limit : Instant) {motive : EventLoop S J → Prop}
    (rest : ∀ l, roundTime? limit l = none → motive l)
    (round : ∀ l now, roundTime? limit l = some now → motive (round m now l).1 → motive l)
    (l : EventLoop S J) : motive l := by
  induction l using run.induct m limit with
  | case1 l htime => exact rest l htime
  | case2 l now htime hempty => exact absurd (List.length_eq_zero_iff.1 hempty) (batch_ne_nil htime)
  | case3 l now htime _ _ _ _ ih => exact round l now htime ih

/-- A run leaves the timers in order. -/
lemma InOrder.run (hm : m.IsTimely) (limit : Instant) (hts : InOrder l.timers) :
    InOrder (run m limit l).1.timers := by
  induction l using run_induction m limit with
  | rest l hrest =>
    rw [run_of_rest m hrest]
    exact hts
  | round l now hround ih =>
    rw [run_of_round m hround]
    exact ih (hts.round hm now)

/-- A run leaves nothing to do but what is left to timers. -/
lemma ready_run (m : Machine S J E) (limit : Instant) (l : EventLoop S J) :
    (run m limit l).1.ready = [] := by
  induction l using run_induction m limit with
  | rest l hrest =>
    rw [run_of_rest m hrest]
    unfold roundTime? at hrest
    split at hrest
    · cases hrest
    · next hready => simpa using hready
  | round l now hround ih =>
    rw [run_of_round m hround]
    exact ih

/-- What holds of all jobs that are left to timers holds of them after a run. -/
lemma forall_timers_run {P : J → Prop}
    (hm : ∀ now j s, ∀ t ∈ (m.handle now j s).timers, P t.job) (limit : Instant)
    (hl : ∀ t ∈ l.timers, P t.job) : ∀ t ∈ (run m limit l).1.timers, P t.job := by
  have hjobs : ∀ now s js, ∀ t ∈ (doJobs m now s js).timers, P t.job := by
    intro now s js
    induction js generalizing s with
    | nil => exact nofun
    | cons j js ih =>
      intro t ht
      rcases List.mem_append.1 ht with hfirst | hrest
      · exact hm now j s t hfirst
      · exact ih _ t hrest
  induction l using run_induction m limit with
  | rest l hrest =>
    rw [run_of_rest m hrest]
    exact hl
  | round l now hround ih =>
    rw [run_of_round m hround]
    refine ih fun t ht => ?_
    rcases mem_addTimers.1 ht with hnew | hold
    · exact hjobs now l.state _ t hnew
    · exact hl t (subset_laterThan now l.timers hold)

/-- A loop that works until an instant gets there. -/
lemma now_run (hl : l.now ≤ limit) : (run m limit l).1.now = limit := by
  induction l using run_induction m limit with
  | rest l hrest =>
    rw [run_of_rest m hrest]
    dsimp only
    split
    · rfl
    · next hnot => exact le_antisymm hl (not_lt.1 hnot)
  | round l now hround ih =>
    rw [run_of_round m hround]
    exact ih (roundTime?_le_limit hround hl)

end EventLoop

/-! ## The jobs that are done -/

/-- A job that is done at some time, and the state that it is done to. -/
structure Doing (S J : Type) where
  now : Instant
  job : J
  before : S

/-- A machine that does the same jobs, of which just these can be seen. -/
def Machine.traced (m : Machine S J E) : Machine S J (Doing S J) where
  handle := fun now j s =>
    { state := (m.handle now j s).state
      events := [⟨now, j, s⟩]
      ready := (m.handle now j s).ready
      timers := (m.handle now j s).timers }
  weight := m.weight
  lighter := m.lighter

/-- What can be seen of a job that is done. -/
def Doing.events (m : Machine S J E) (d : Doing S J) : List E :=
  (m.handle d.now d.job d.before).events

namespace EventLoop

lemma doJobs_traced (m : Machine S J E) (now : Instant) (js : List J) (s : S) :
    (doJobs m.traced now s js).state = (doJobs m now s js).state ∧
      (doJobs m.traced now s js).ready = (doJobs m now s js).ready ∧
      (doJobs m.traced now s js).timers = (doJobs m now s js).timers ∧
      (doJobs m.traced now s js).events.flatMap (Doing.events m) = (doJobs m now s js).events := by
  induction js generalizing s with
  | nil => exact ⟨rfl, rfl, rfl, rfl⟩
  | cons j js ih =>
    obtain ⟨hstate, hready, htimers, hevents⟩ := ih (m.handle now j s).state
    refine ⟨hstate, congrArg ((m.handle now j s).ready ++ ·) hready,
      congrArg ((m.handle now j s).timers ++ ·) htimers, ?_⟩
    exact congrArg ((m.handle now j s).events ++ ·) hevents

variable [Platform] {m : Machine S J E} {now limit : Instant} {l : EventLoop S J}

/-- The jobs that a loop does until an instant. -/
def doings (m : Machine S J E) (limit : Instant) (l : EventLoop S J) : List (Doing S J) :=
  (run m.traced limit l).2

lemma round_traced (m : Machine S J E) (now : Instant) (l : EventLoop S J) :
    (round m.traced now l).1 = (round m now l).1 ∧
      (round m.traced now l).2.flatMap (Doing.events m) = (round m now l).2 := by
  obtain ⟨hstate, hready, htimers, hevents⟩ := doJobs_traced m now (batch now l) l.state
  refine ⟨?_, hevents⟩
  rw [round, round, hstate, hready, htimers]

lemma doings_of_rest (m : Machine S J E) (h : roundTime? limit l = none) :
    doings m limit l = [] := by
  rw [doings, run_of_rest m.traced h]

lemma doings_of_round (m : Machine S J E) (h : roundTime? limit l = some now) :
    doings m limit l = (round m.traced now l).2 ++ doings m limit (round m now l).1 := by
  rw [doings, run_of_round m.traced h, (round_traced m now l).1, doings]

/-- A traced machine leads a loop where the machine leads it, and what can be seen of the machine is
what can be seen of the jobs. -/
theorem run_traced (m : Machine S J E) (limit : Instant) (l : EventLoop S J) :
    (run m.traced limit l).1 = (run m limit l).1 ∧
      (doings m limit l).flatMap (Doing.events m) = (run m limit l).2 := by
  rw [doings]
  induction l using run_induction m limit with
  | rest l hrest =>
    rw [run_of_rest m hrest, run_of_rest m.traced hrest]
    exact ⟨rfl, rfl⟩
  | round l now hround ih =>
    obtain ⟨hloop, hevents⟩ := round_traced m now l
    rw [run_of_round m hround, run_of_round m.traced hround, hloop, List.flatMap_append, hevents]
    exact ⟨ih.1, congrArg ((round m now l).2 ++ ·) ih.2⟩

end EventLoop

end Mermaid
