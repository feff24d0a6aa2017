import Mermaid.Proofs.Layout.Outline
import Mermaid.Proofs.Structure.Trimming

/-!
# Layout leaves the verdict alone

Laying a text out changes the blanks around its lines alone, so the structural check of the text
laid out comes to the same as that of the text: it accepts both or objects to the same character of
the same line in both.
-/

namespace Mermaid.Layout

open Structure (check)

/-- Whether two places in two texts start at the same character of the same line, but for the blanks
around the lines. -/
structure SamePlace (t s : Text) (a b : Structure.Place) : Prop where
  firstLine : b.span.firstLine = a.span.firstLine
  lastLine : b.span.lastLine = a.span.lastLine
  trimmed : Text.trim (Text.lineAt s b.line) = Text.trim (Text.lineAt t a.line)
  firstCol : b.span.firstCol - Text.margin (Text.lineAt s b.line) =
    a.span.firstCol - Text.margin (Text.lineAt t a.line)

/-- Whether the structural check comes to the same for two texts, but for the blanks around their
lines: it accepts both, or objects to the same thing at the same place of both. -/
structure SameVerdict (t s : Text) : Prop where
  accepted : check s = .ok () ↔ check t = .ok ()
  rejected : ∀ p q, check t = .error p → check s = .error q →
    q.cause = p.cause ∧ Option.Rel (SamePlace t s) p.place q.place

/-- Texts that differ in the blanks around their lines alone have the same verdict. -/
theorem sameVerdict_of_map_trim {t s : Text}
    (h : (Text.lines s).map Text.trim = (Text.lines t).map Text.trim) : SameVerdict t s := by
  have ht := Structure.alike_check_trimLines t
  have hs := Structure.alike_check_trimLines s
  rw [show Structure.trimLines s = Structure.trimLines t from congrArg Text.joinLines h] at hs
  have htrim : ∀ number, Text.trim (Text.lineAt s number) = Text.trim (Text.lineAt t number) := by
    intro number
    rw [Text.trim_lineAt, Text.trim_lineAt, h]
  refine ⟨hs.eq_ok_iff.trans ht.eq_ok_iff.symm, ?_⟩
  -- both problems are that of the trimmed lines, moved by the margins of the one text or the other
  intro p q hp hq
  obtain ⟨r, hr, hrp⟩ := ht.exists_of_error hp
  obtain ⟨r', hr', hrq⟩ := hs.exists_of_error hq
  obtain rfl : r = r' := Except.error.inj (hr.symm.trans hr')
  refine ⟨hrq.cause.trans hrp.cause.symm, ?_⟩
  have hplace := hrp.place
  have hplace' := hrq.place
  generalize p.place = a at hplace ⊢
  generalize q.place = b at hplace' ⊢
  generalize r.place = c at hplace hplace'
  cases hplace with
  | none =>
    cases hplace'
    exact .none
  | @some c a ha =>
    cases hplace' with
    | @some _ b hb =>
      have hline : b.line = a.line := hb.1.trans ha.1.symm
      refine .some ⟨?_, ?_, ?_, ?_⟩
      · rw [Structure.Place.span, Structure.Place.span, hline]
      · rw [Structure.Place.span, Structure.Place.span, hline]
      · rw [hline, htrim]
      · show (b.first : Int) - _ = (a.first : Int) - _
        rw [ha.2, hb.2, ha.1, hb.1]
        omega

/-- **Layout and the structural check.** Whatever is laid out has the same verdict as the text. -/
theorem format_sameVerdict [Platform] {width : Int} {t s : Text} (h : format width t = .ok s) :
    SameVerdict t s := by
  obtain ⟨-, hrender⟩ := format_eq_ok_iff.1 h
  rw [← hrender]
  exact sameVerdict_of_map_trim (map_trim_lines_render width t)

section Usual

open Platform.Usual

/-- A bracket that nothing opened is found in its line before and after the line is indented. -/
theorem format_sameVerdict_indented :
    ∃ s, format 4 "graph TD\nA]".toList = .ok s ∧ SameVerdict "graph TD\nA]".toList s := by
  have hformat : format 4 "graph TD\nA]".toList = .ok "graph TD\n    A]".toList := by
    decide +kernel
  exact ⟨_, hformat, format_sameVerdict hformat⟩

/-- An accepted text cannot be laid out, if the spaces in front of its second line cannot be
counted. -/
theorem not_forall_exists_format :
    ¬∀ (width : Int) (t : Text), check t = .ok () →
      ∃ s, format width t = .ok s ∧ check s = .ok () := by
  intro h
  have hfault : format (-wordLimit - 1) "graph TD\nA-->B".toList = .error .uncountable := by
    decide +kernel
  obtain ⟨s, hs, -⟩ := h (-wordLimit - 1) "graph TD\nA-->B".toList
    (Structure.check_eq_ok (by decide +kernel))
  rw [hfault] at hs
  cases hs

end Usual

end Mermaid.Layout
