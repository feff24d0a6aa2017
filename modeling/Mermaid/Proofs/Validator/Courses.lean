import Mermaid.Validator.Command
import Mathlib.Data.List.Basic
import Mathlib.Tactic.Common
import Mathlib.Tactic.Linarith

/-!
# The course of a run

A run comes to its verdict when the last pause of its course is over, and nothing is seen of it
after that. The answer of a program comes in time if the program has got its input and takes less
than the timeout; the run then comes to the verdict that the answer stands for.

* `Course.run_mono` says that what is seen stays, and that a verdict is final;
* `Command.AnswersAfter` says which answers come in time, and `Command.answersAfter_iff` what that
  is for answers that a clock can tell from no time;
* `Command.exists_afterInput_of_answersAfter` is the course that leads to an answer.
-/

namespace Mermaid

section

variable [Platform]

/-- Whether some seconds are over within others. No time at all is always over. -/
def Clock.IsOverWithin (limit d : Rat) : Prop := d ≤ 0 ∨ d < limit + Platform.resolution

instance (limit d : Rat) : Decidable (Clock.IsOverWithin limit d) :=
  inferInstanceAs (Decidable (d ≤ 0 ∨ d < limit + Platform.resolution))

lemma Clock.isOverWithin_of_le {limit d : Rat} (h : d ≤ limit) : Clock.IsOverWithin limit d := by
  have hpos := Platform.resolution_pos
  exact .inr (by linarith)

/-- Whether a pause is over within some seconds. -/
def Pause.IsOver (limit : Rat) : Pause → Prop
  | .rounds _ => True
  | .seconds d _ => d < limit + Platform.resolution

namespace Course

variable {limit limit' d : Rat} {pause : Pause} {events : List RunEvent} {rest : Course}
  {v : Verdict}

/-- A run comes to its end, or to where it is stuck, when its last pause is over. -/
lemma run_next_of_silent {v : Option Verdict} (hrest : ∀ l, rest.run l = ([], v))
    (hover : pause.IsOver limit ↔ Clock.IsOverWithin limit d) :
    (next pause events rest).run limit =
      if Clock.IsOverWithin limit d then (events, v) else ([], none) := by
  have hevents : (events ++ [], v) = (events, v) := by rw [List.append_nil]
  cases pause with
  | rounds n =>
    rw [if_pos (hover.1 trivial), run, hrest]
    exact hevents
  | seconds d' n =>
    have hd' : d' < limit + Platform.resolution ↔ Clock.IsOverWithin limit d := hover
    rw [run]
    by_cases hwithin : Clock.IsOverWithin limit d
    · rw [if_pos hwithin, if_pos (hd'.2 hwithin), hrest]
      exact hevents
    · rw [if_neg hwithin, if_neg (mt hd'.1 hwithin)]

/-- A run comes to its verdict when its last pause is over. -/
lemma run_next_done (hover : pause.IsOver limit ↔ Clock.IsOverWithin limit d) :
    (next pause events (.done v)).run limit =
      if Clock.IsOverWithin limit d then (events, some v) else ([], none) :=
  run_next_of_silent (fun _ => rfl) hover

end Course

namespace Command

variable {c : Command} {p : Program} {d limit : Rat}

/-- Whether the answer of a program comes in time, some seconds after its input. -/
structure AnswersAfter (c : Command) (p : Program) (d : Rat) : Prop where
  found : p.found = true
  delay : p.delay = some d
  started : isOver c.timeout = false
  inTime : d ≤ 0 ∨ c.timeout = .infinite false ∨
    ∃ limit, c.timeout.toRat? = some limit ∧ Platform.resolution ≤ limit ∧ d < limit

/-- An answer that takes no time, or one that can be told apart from that, comes in time if it takes
less than the timeout. -/
theorem answersAfter_iff (hd : d ≤ 0 ∨ Platform.resolution ≤ d) : c.AnswersAfter p d ↔
    p.found = true ∧ p.delay = some d ∧ isOver c.timeout = false ∧
      (d ≤ 0 ∨ c.timeout = .infinite false ∨
        ∃ limit, c.timeout.toRat? = some limit ∧ d < limit) := by
  constructor
  · intro h
    refine ⟨h.found, h.delay, h.started, h.inTime.imp_right (Or.imp_right ?_)⟩
    rintro ⟨limit, hlimit, -, hlt⟩
    exact ⟨limit, hlimit, hlt⟩
  · rintro ⟨hfound, hdelay, hstarted, htime⟩
    refine ⟨hfound, hdelay, hstarted, ?_⟩
    by_cases hnow : d ≤ 0
    · exact .inl hnow
    · have hresolution := hd.resolve_left hnow
      refine .inr ((htime.resolve_left hnow).imp_right ?_)
      rintro ⟨limit, hlimit, hlt⟩
      exact ⟨limit, hlimit, hresolution.trans hlt.le, hlt⟩

/-- A program that answers in time has its verdict once its answer is there. -/
lemma exists_afterInput_of_answersAfter (h : c.AnswersAfter p d) :
    ∃ pause : Pause, c.afterInput p = .next pause [] (.done (judge p)) ∧
      ∀ limit, pause.IsOver limit ↔ Clock.IsOverWithin limit d := by
  have hnow : ∀ n, d ≤ 0 → ∀ limit,
      (Pause.rounds n).IsOver limit ↔ Clock.IsOverWithin limit d :=
    fun _ hd _ => iff_of_true trivial (.inl hd)
  have hlater : ∀ n, ¬d ≤ 0 → ∀ limit,
      (Pause.seconds d n).IsOver limit ↔ Clock.IsOverWithin limit d :=
    fun _ hd _ => (or_iff_right hd).symm
  unfold afterInput
  rw [h.delay]
  by_cases hd : d ≤ 0
  · simp only [Option.any_some, decide_eq_true hd, if_true, if_pos hd]
    split
    · exact ⟨_, rfl, hnow 1 hd⟩
    · exact ⟨_, rfl, hnow 0 hd⟩
    · split
      · exact ⟨_, rfl, hnow 0 hd⟩
      · exact ⟨_, rfl, hnow 1 hd⟩
  · simp only [Option.any_some, decide_eq_false hd, if_neg hd]
    split
    · exact ⟨_, rfl, hlater 2 hd⟩
    · next hnone hfinite =>
      rcases h.inTime.resolve_left hd with hinfinite | ⟨limit', hlimit', -⟩
      · exact absurd hinfinite (hfinite false)
      · cases hnone.symm.trans hlimit'
    · next limit hlimit hfinite =>
      rcases h.inTime.resolve_left hd with hinfinite | ⟨limit', hlimit', hresolution, hlt⟩
      · exact absurd hinfinite (hfinite false)
      · cases hlimit.symm.trans hlimit'
        rw [if_neg (not_lt.2 hresolution), if_pos hlt]
        exact ⟨_, rfl, hlater 2 hd⟩

/-- A program is given a text that can be encoded, unless its time is over before that. -/
lemma start_of_started (hfound : p.found = true) (hstarted : isOver c.timeout = false)
    {text : RawText} (hencodable : text.utf8Fault? = none) :
    c.start p text =
      ([.spawn c.argv], .next (.rounds 0) [.input text.legible] (c.afterInput p)) := by
  rw [start, hfound, hencodable, hstarted]
  rfl

/-- A run comes to the verdict of an answer that comes in time. -/
lemma run_of_answersAfter (h : c.AnswersAfter p d) (hlimit : d ≤ limit) {text : RawText}
    (hencodable : text.utf8Fault? = none) :
    ((c.start p text).2.run limit).2 = some (judge p) := by
  obtain ⟨pause, hafter, hover⟩ := exists_afterInput_of_answersAfter h
  rw [start_of_started h.found h.started hencodable, hafter, Course.run,
    Course.run_next_done (hover limit),
    if_pos (Clock.isOverWithin_of_le hlimit)]

end Command

end

end Mermaid
