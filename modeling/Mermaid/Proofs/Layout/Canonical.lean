import Mermaid.Proofs.Layout.Verdict

/-!
# The canonical form of a text

Of the blanks around its lines nothing is left of a text that is laid out. So what comes of a text
depends on its trimmed lines alone, and laying it out a second time, with whatever width, comes to
the same as if it had not been laid out before.

* `Text.trimmedLines` is what counts of a text;
* `Layout.format_congr` says that nothing else does;
* `Layout.format_canonical` puts this together with what is known of a text laid out.
-/

namespace Mermaid

/-- The lines of a text without the blanks around them. -/
def Text.trimmedLines (t : Text) : List Text := (lines t).map trim

namespace Layout

open Text (trimmedLines)

/-- A line laid out has no trailing blanks. -/
lemma trimEnd_of_mem_render {width : Int} {level : Nat} {ls : List Text} :
    ∀ l ∈ (outlineFrom level ls).map (Line.render width), Text.trimEnd l = l := by
  induction ls generalizing level with
  | nil => simp [outlineFrom]
  | cons raw rest ih =>
    rw [outlineFrom]
    split
    · rw [List.map_cons, List.forall_mem_cons]
      exact ⟨rfl, ih⟩
    · next hne =>
      rw [List.map_cons, List.forall_mem_cons]
      refine ⟨?_, ih⟩
      have htrim : Text.trimEnd (Text.trim raw) ≠ [] := by simpa using hne
      rw [Line.render, Text.trimEnd_append_of_ne_nil _ htrim, Text.trimEnd_trim]

/-- Texts with the same outline come to the same. -/
lemma format_congr [Platform] (width : Int) {t u : Text} (h : trimmedLines u = trimmedLines t) :
    format width u = format width t := by
  rw [format, format, fault?, fault?, render, render, outline_congr h]

/-- **The canonical form.** Texts with the same trimmed lines come to the same. What comes of a text
that can be laid out has the trimmed lines of the text and no trailing blanks; it comes of exactly
the texts with these trimmed lines, and it is laid out again with any width as the text would be. -/
theorem format_canonical [Platform] (width : Int) (t : Text) :
    (∀ u, trimmedLines u = trimmedLines t → format width u = format width t) ∧
      ∀ s, format width t = .ok s →
        trimmedLines s = trimmedLines t ∧ (∀ l ∈ Text.lines s, Text.trimEnd l = l) ∧
        (∀ u, format width u = .ok s ↔ trimmedLines u = trimmedLines t) ∧
        ∀ width', format width' s = format width' t := by
  refine ⟨fun u h => format_congr width h, ?_⟩
  intro s hs
  have hlines : ∀ u, format width u = .ok s → trimmedLines s = trimmedLines u := by
    intro u hu
    rw [← (format_eq_ok_iff.1 hu).2]
    exact map_trim_lines_render width u
  refine ⟨hlines t hs, ?_, ?_, fun width' => format_congr width' (hlines t hs)⟩
  · rw [← (format_eq_ok_iff.1 hs).2, lines_render]
    exact trimEnd_of_mem_render
  · intro u
    constructor
    · intro hu
      exact (hlines u hu).symm.trans (hlines t hs)
    · intro hu
      rw [format_congr width hu, hs]

section Usual

open Platform.Usual

/-- A form feed, a carriage return and an ideographic space at the ends of lines change nothing. -/
theorem format_canonical_spaced :
    ∃ s, format 2 "graph TD\nA\n".toList = .ok s ∧
      format 2 "\x0cgraph TD\r\n    A\u3000\n\t".toList = .ok s ∧
      format 4 s = format 4 "graph TD\nA\n".toList := by
  obtain ⟨hsame, hlaid⟩ := format_canonical 2 "graph TD\nA\n".toList
  have hformat : format 2 "graph TD\nA\n".toList = .ok "graph TD\n  A\n".toList := by
    decide +kernel
  have hspaced := hsame "\x0cgraph TD\r\n    A\u3000\n\t".toList (by decide)
  obtain ⟨-, -, -, hagain⟩ := hlaid _ hformat
  exact ⟨_, hformat, hspaced.trans hformat, hagain 4⟩

/-- Nothing comes of a text if the spaces in front of one of its lines cannot be counted, though
there would be none. -/
theorem not_forall_format_canonical :
    ¬∀ (width : Int) (t : Text), ∃ s, format width t = .ok s ∧ trimmedLines s = trimmedLines t := by
  intro h
  obtain ⟨s, hs, -⟩ := h (-wordLimit - 1) "graph TD\nA\n".toList
  have hfault : format (-wordLimit - 1) "graph TD\nA\n".toList = .error .uncountable := by
    decide +kernel
  rw [hfault] at hs
  cases hs

end Usual

end Layout
end Mermaid
