import Mathlib.Tactic.Common
import Mermaid.Pipeline.Basic

/-!
# Runs of a pipeline

A pipeline is driven by calls from outside, by its timer, and by the ends of its passes. They come
in any order, and passes need not end in the order in which they were started.

* `Happening` lists what can happen, and `Pipeline.respond` says what comes of it;
* `Pipeline.Run` strings happenings together, each of them possible at its moment: a timer fires
  only while it is set, and a pass ends only while it is in flight;
* `Pipeline.respond_transition` lists all that can come of a happening. The theorems about runs
  are drawn from this list.
-/

namespace Mermaid

/-- What can happen to a pipeline. -/
inductive Happening
  | update (now : Instant) (text : Text)
  | validateNow (text : Option Text)
  /-- The same for a caller who waits for the markers. -/
  | flush (ticket : Nat) (text : Option Text)
  | setDelay (delay : Binary64)
  | teardown
  | fire (serial : Nat)
  | finish (number : Nat) (verdict : Verdict)
  /-- A pass is cancelled, so it ends without an outcome. -/
  | cancel (number : Nat)

namespace Happening

/-- The text that a call hands in, if it hands in one. -/
def text? : Happening → Option Text
  | .update _ text => some text
  | .validateNow text => text
  | .flush _ text => text
  | _ => none

/-- Whether it is a call to validate, sooner or later. -/
def isEntry : Happening → Bool
  | .update .. | .validateNow _ | .flush .. => true
  | _ => false

/-- Whether it can happen to a pipeline. -/
def isPossible : Happening → Pipeline → Bool
  | .fire serial, p => p.timer.any fun t => t.serial = serial
  | .finish number _, p => (p.pass? number).isSome
  | .cancel number, p => (p.pass? number).isSome
  | _, _ => true

end Happening

/-- What comes of a happening. -/
def Pipeline.respond (r : Receivers) (p : Pipeline) : Happening → Change
  | .update now text => (p.update r now text).1
  | .validateNow text => p.validateNow r none text
  | .flush ticket text => p.validateNow r (some ticket) text
  | .setDelay delay => { pipeline := { p with delay := delay } }
  | .teardown => { pipeline := p.teardown }
  | .fire serial => p.fire serial
  | .finish number v => p.finish r number v
  | .cancel number => { pipeline := p.drop number }

/-- A happening, with the pipeline before it and the receivers as they behave then. -/
structure Moment where
  before : Pipeline
  receivers : Receivers
  happening : Happening

namespace Moment

/-- What comes of a moment. -/
def change (m : Moment) : Change := m.before.respond m.receivers m.happening

/-- The pipeline after a moment. -/
def after (m : Moment) : Pipeline := m.change.pipeline

end Moment

/-- The moments that lead from one pipeline to another. -/
inductive Pipeline.Run (p₀ : Pipeline) : List Moment → Pipeline → Prop
  | start : Run p₀ [] p₀
  | step {ms : List Moment} {p : Pipeline} (r : Receivers) (h : Happening) :
      Run p₀ ms p → h.isPossible p = true →
        Run p₀ (ms ++ [⟨p, r, h⟩]) (p.respond r h).pipeline

/-! ## What can come of a happening -/

/-- All that can come of a happening. -/
inductive Transition (r : Receivers) (p : Pipeline) : Happening → Change → Prop
  | ignored (h : Happening) : p.isClosed = true → h.isEntry = true →
      Transition r p h { pipeline := p }
  | cleared (h : Happening) : p.isClosed = false → h.isEntry = true →
      Text.isBlankText (h.text?.getD p.text) = true →
      Transition r p h (Pipeline.clear r { p with timer := none, text := h.text?.getD p.text })
  | armed (h : Happening) (t : SetTimer) : p.isClosed = false → h.isEntry = true →
      Text.isBlankText (h.text?.getD p.text) = false →
      Transition r p h { pipeline := { p with
        text := h.text?.getD p.text, timer := some t, timersSet := p.timersSet + 1,
        phase := .pending } }
  | started (h : Happening) (caller : Option Nat) : p.isClosed = false → h.isEntry = true →
      Text.isBlankText (h.text?.getD p.text) = false →
      Transition r p h
        (Pipeline.start caller { p with timer := none, text := h.text?.getD p.text })
  | fired (serial : Nat) : p.timer.isSome = true →
      Transition r p (.fire serial) (Pipeline.start none { p with timer := none })
  | settled (n : Nat) (v : Verdict) (pass : Pass) : pass ∈ p.inFlight → pass.number = n →
      p.isClosed = false → n = p.issued →
      Transition r p (.finish n v) (Pipeline.settle r v (p.drop n))
  | outdated (n : Nat) (v : Verdict) : p.isClosed = true ∨ n ≠ p.issued →
      Transition r p (.finish n v) { pipeline := p.drop n }
  | cancelled (n : Nat) : Transition r p (.cancel n) { pipeline := p.drop n }
  | tornDown : Transition r p .teardown { pipeline := p.teardown }
  | delayed (d : Binary64) :
      Transition r p (.setDelay d) { pipeline := { p with delay := d } }

namespace Pipeline

lemma mem_of_pass?_eq_some {p : Pipeline} {n : Nat} {pass : Pass} (h : p.pass? n = some pass) :
    pass ∈ p.inFlight ∧ pass.number = n := by
  have hnumber := List.find?_some h
  simp only [decide_eq_true_eq] at hnumber
  exact ⟨List.mem_of_find?_eq_some h, hnumber⟩

/-- A new text is ignored, is its own outcome, or sets the timer. -/
lemma update_transition (r : Receivers) (p : Pipeline) (now : Instant) (text : Text) :
    Transition r p (.update now text) (p.update r now text).1 := by
  cases hclosed : p.isClosed with
  | true =>
    rw [show (p.update r now text).1 = { pipeline := p } by simp [update, hclosed]]
    exact .ignored _ hclosed rfl
  | false =>
    cases hblank : Text.isBlankText text with
    | true =>
      rw [show (p.update r now text).1 = clear r { p with timer := none, text := text } by
        simp [update, hclosed, hblank]]
      exact .cleared (.update now text) hclosed rfl hblank
    | false =>
      rw [show (p.update r now text).1 = { pipeline := { p with
          text := text, timer := some ⟨p.timersSet, .after now p.delay⟩,
          timersSet := p.timersSet + 1, phase := .pending } } by
        simp [update, hclosed, hblank]]
      exact .armed (.update now text) _ hclosed rfl hblank

/-- A call to validate at once is ignored, finds a blank text, or starts a pass. -/
lemma validateNow_transition (r : Receivers) (p : Pipeline) (caller : Option Nat) (h : Happening)
    (hentry : h.isEntry = true) :
    Transition r p h (p.validateNow r caller h.text?) := by
  unfold validateNow
  cases hclosed : p.isClosed with
  | true =>
    rw [if_pos rfl]
    exact .ignored _ hclosed hentry
  | false =>
    rw [if_neg (by simp)]
    cases hblank : Text.isBlankText (h.text?.getD p.text) with
    | true =>
      simp only [hblank, if_true]
      exact .cleared h hclosed hentry hblank
    | false =>
      simp only [hblank, Bool.false_eq_true, if_false]
      exact .started h caller hclosed hentry hblank

/-- A pass that ends is the newest one, or out of date. -/
lemma finish_transition (r : Receivers) (p : Pipeline) (n : Nat) (v : Verdict)
    (hflying : (p.pass? n).isSome = true) :
    Transition r p (.finish n v) (p.finish r n v) := by
  obtain ⟨pass, hpass⟩ := Option.isSome_iff_exists.1 hflying
  obtain ⟨hmem, hnumber⟩ := mem_of_pass?_eq_some hpass
  have hopen : (p.drop n).isClosed = p.isClosed := rfl
  simp only [finish, hpass, hopen]
  -- the pass is dropped in either case, and its outcome is taken only if it is the newest
  split
  · next hstale =>
    simp only [Bool.or_eq_true, decide_eq_true_eq] at hstale
    exact .outdated n v hstale
  · next hnew =>
    simp only [Bool.or_eq_true, decide_eq_true_eq, not_or, not_not, Bool.not_eq_true] at hnew
    exact .settled n v pass hmem hnumber hnew.1 hnew.2

/-- What comes of a happening is on the list. -/
theorem respond_transition (r : Receivers) (p : Pipeline) (h : Happening)
    (hpossible : h.isPossible p = true) : Transition r p h (p.respond r h) := by
  cases h with
  | update now text => exact update_transition r p now text
  | validateNow text => exact validateNow_transition r p none (.validateNow text) rfl
  | flush ticket text => exact validateNow_transition r p (some ticket) (.flush ticket text) rfl
  | setDelay d => exact .delayed d
  | teardown => exact .tornDown
  | fire serial =>
    have htimer : (p.timer.any fun t => t.serial = serial) = true := hpossible
    have hset : p.timer.isSome = true := by
      cases ht : p.timer with
      | none => simp [ht] at htimer
      | some t => rfl
    rw [show p.respond r (.fire serial) = start none { p with timer := none } by
      simp only [respond, fire, htimer, if_true]]
    exact .fired serial hset
  | finish n v => exact finish_transition r p n v hpossible
  | cancel n => exact .cancelled n

end Pipeline

end Mermaid
