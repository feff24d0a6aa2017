import Mermaid.Editor.Hover
import Mermaid.Proofs.Editor.TokenColumns

/-!
# The token under the cursor

A cursor is over the token that covers its column, or, where none does, over the one that ends
there. Hovering takes the first token that the column touches. That is the same, except where two
tokens meet, as in `A-->B`: there the one that ends is taken for the one that starts. So an arrow is
documented at all its columns if and only if it does not start right behind a word.

* `Hover.underCursor?` is the token that a cursor is over;
* `Hover.hovered_token` says which one is taken, and where that is the same.
-/

namespace Mermaid.Hover

open Text (InWord InGlyph)

variable {line : Text} {c : Nat} {r : Run}

/-- The token that a cursor is over: the one that covers its column, or else the one that ends
there. -/
def underCursor? (line : Text) (c : Nat) : Option Run :=
  ((Run.all Run.tokenAt line).find? fun r => r.start ≤ c && c < r.stop).or
    ((Run.all Run.tokenAt line).find? fun r => r.stop = c)

/-- What is shown for a token of a line. -/
def shown? (n : Nat) (r : Run) : Option Hover :=
  (Keyword.doc? r.text).map fun doc => ⟨doc, .onLine n r.start r.stop⟩

lemma tokenAt?_natCast (line : Text) (c : Nat) :
    tokenAt? line c = Run.touching? Run.tokenAt line c := by
  rw [tokenAt?, if_neg (by omega), Int.toNat_natCast]

/-- A token ends at a column that another one covers if and only if the two meet there. -/
lemma meet_iff_of_covers (hr : r ∈ Run.all Run.tokenAt line) (hstart : r.start ≤ c)
    (hlt : c < r.stop) : Run.Meet line c ↔ ∃ s ∈ Run.all Run.tokenAt line, s.stop = c := by
  constructor
  · rintro ⟨s, hs, -, -, hstop, -⟩
    exact ⟨s, hs, hstop⟩
  · rintro ⟨s, hs, hstop⟩
    have hnonempty := Run.start_lt_stop_of_mem hs
    refine ⟨s, hs, r, hr, hstop, ?_⟩
    rcases Run.disjoint_of_mem_all hr hs with rfl | hbefore | hbehind
    · omega
    · omega
    · omega

/-- The token that is taken ends at the column, or it covers the column and does not meet another
one there. -/
lemma tokenAt?_eq_some_iff : tokenAt? line c = some r ↔ r ∈ Run.all Run.tokenAt line ∧
    (r.stop = c ∨ r.start ≤ c ∧ c < r.stop ∧ ¬Run.Meet line c) := by
  rw [tokenAt?_natCast, Run.touching?_eq_some_iff]
  refine and_congr_right fun hr => or_congr_right (and_congr_right fun hstart =>
    and_congr_right fun hlt => ?_)
  rw [meet_iff_of_covers hr hstart hlt]
  push Not
  rfl

lemma tokenAt?_eq_none_iff :
    tokenAt? line c = none ↔ ∀ r ∈ Run.all Run.tokenAt line, c < r.start ∨ r.stop < c := by
  rw [tokenAt?_natCast, Run.touching?_eq_none_iff]
  refine forall₂_congr fun r _ => ?_
  simp only [Run.touches, Bool.and_eq_true, decide_eq_true_eq]
  omega

/-- The token that a cursor is over covers its column, or it ends there and none covers it. -/
lemma underCursor?_eq_some_iff : underCursor? line c = some r ↔ r ∈ Run.all Run.tokenAt line ∧
    (r.start ≤ c ∧ c < r.stop ∨
      r.stop = c ∧ ∀ s ∈ Run.all Run.tokenAt line, ¬(s.start ≤ c ∧ c < s.stop)) := by
  rw [underCursor?, Option.or_eq_some_iff, Run.find?_covers_eq_some_iff,
    Run.find?_stop_eq_some_iff, List.find?_eq_none]
  simp only [Bool.and_eq_true, decide_eq_true_eq]
  rw [and_or_left]
  refine or_congr_right ⟨fun ⟨hnone, hr, hstop⟩ => ⟨hr, hstop, hnone⟩,
    fun ⟨hr, hstop, hnone⟩ => ⟨hnone, hr, hstop⟩⟩

/-- The token that is taken is the one that the cursor is over, except where two tokens meet. -/
lemma tokenAt?_eq_underCursor?_iff :
    tokenAt? line c = underCursor? line c ↔ ¬Run.Meet line c := by
  constructor
  · rintro heq ⟨r, hr, s, hs, hstop, hstart⟩
    have hnonempty := Run.start_lt_stop_of_mem hs
    have htaken : tokenAt? line c = some r := tokenAt?_eq_some_iff.2 ⟨hr, .inl hstop⟩
    have hunder : underCursor? line c = some s :=
      underCursor?_eq_some_iff.2 ⟨hs, .inl (by omega)⟩
    rw [htaken, hunder, Option.some_inj] at heq
    rw [heq] at hstop
    omega
  · intro hmeet
    apply Option.ext
    intro r
    show tokenAt? line c = some r ↔ underCursor? line c = some r
    rw [tokenAt?_eq_some_iff, underCursor?_eq_some_iff]
    refine and_congr_right fun hr => ?_
    constructor
    · rintro (hstop | ⟨hstart, hlt, -⟩)
      · refine .inr ⟨hstop, fun s hs ⟨hstart, hlt⟩ => hmeet ?_⟩
        exact (meet_iff_of_covers hs hstart hlt).2 ⟨r, hr, hstop⟩
      · exact .inl ⟨hstart, hlt⟩
    · rintro (⟨hstart, hlt⟩ | ⟨hstop, -⟩)
      · exact .inr ⟨hstart, hlt, hmeet⟩
      · exact .inl hstop

/-- What is shown at a place of a line is what there is to be shown for the token that is taken. -/
lemma shown_of_tokenAt? {t : Text} {n : Nat} (hl : (Text.lines t)[n]? = some line)
    (hr : tokenAt? line c = some r) :
    at? t ⟨n, c⟩ = shown? n r ∧ markdown? t n c = Keyword.doc? r.text := by
  have hline : lineAt? t n = some line := by
    rw [lineAt?, if_neg (by omega), Int.toNat_natCast, hl]
  have hdocumented : documented? t n c = (Keyword.doc? r.text).map fun doc => (doc, r) := by
    rw [documented?, hline, Option.bind_eq_bind, Option.bind_some, hr, Option.bind_eq_bind,
      Option.bind_some]
    cases Keyword.doc? r.text with
    | none => rfl
    | some doc => rfl
  constructor
  · rw [at?, hdocumented, Option.map_map]
    rfl
  · rw [markdown?, hdocumented, Option.map_map]
    exact congrFun Option.map_id _

/-- **The token that is hovered over** is the one that ends at the column, or else the one that
covers it. It is the token that the cursor is over if and only if no two tokens meet there, a word
and a glyph; the documentation that is shown is its own, with its range. -/
theorem hovered_token (line : Text) (c : Nat) :
    (∀ r, tokenAt? line c = some r ↔ r ∈ Run.all Run.tokenAt line ∧
      (r.stop = c ∨ r.start ≤ c ∧ c < r.stop ∧ ¬Run.Meet line c)) ∧
    (tokenAt? line c = none ↔ ∀ r ∈ Run.all Run.tokenAt line, c < r.start ∨ r.stop < c) ∧
    (tokenAt? line c = underCursor? line c ↔ ¬Run.Meet line c) ∧
    (Run.Meet line c ↔ ∃ i, i + 1 = c ∧
      (InWord line i ∧ InGlyph line c ∨ InGlyph line i ∧ InWord line c)) ∧
    ∀ t n, (Text.lines t)[n]? = some line → ∀ r ∈ Run.all Run.tokenAt line,
      (r.stop = c ∨ r.start ≤ c ∧ c < r.stop ∧ ¬Run.Meet line c) →
        at? t ⟨n, c⟩ = shown? n r ∧ markdown? t n c = Keyword.doc? r.text :=
  ⟨fun _ => tokenAt?_eq_some_iff, tokenAt?_eq_none_iff, tokenAt?_eq_underCursor?_iff,
    Run.meet_iff, fun _ _ hl _ hr hplace =>
      shown_of_tokenAt? hl (tokenAt?_eq_some_iff.2 ⟨hr, hplace⟩)⟩

/-- Nothing is shown where an arrow starts right behind a node. -/
example : at? "A-->B".toList ⟨0, 1⟩ = none := by decide +kernel

/-- Where an arrow starts right behind a node, the node is taken for it. -/
theorem not_forall_hovered_token :
    ¬∀ (line : Text) (c : Nat), tokenAt? line c = underCursor? line c := by
  intro h
  have hmeet : Run.Meet "A-->B".toList 1 := by
    refine Run.meet_iff.2 ⟨0, rfl, .inl ⟨.inl (by decide +kernel), by decide +kernel, ?_⟩⟩
    rintro (hword | hjoint)
    · exact absurd hword (by decide +kernel)
    · exact absurd hjoint.2.1 (by decide +kernel)
  exact tokenAt?_eq_underCursor?_iff.1 (h "A-->B".toList 1) hmeet

end Mermaid.Hover
