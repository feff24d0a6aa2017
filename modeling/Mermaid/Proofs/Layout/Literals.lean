import Mermaid.Proofs.Layout.Depth
import Mermaid.Proofs.Lexer.Literals

/-!
# Strings of a text laid out

The layout does not look for strings. A line that a string goes on to is trimmed and indented like
any other, with the part of the string that stands in it. So a text laid out has the strings that it
had before, one by one and line by line, but for the blanks at the ends of their lines.

* `Layout.relay` puts margins in front of trimmed lines, and so lays a text out;
* `Literal.relaid` says what becomes of a string then;
* `Layout.literalsFrom_relay` follows all strings through a text, line by line.
-/

namespace Mermaid

open Lexer (Literal LineStrings literals literalsFrom tokenizeLines)
open Text (isBlankText)

namespace Layout

/-- Some lines without the blanks around them, each behind the margin for its number. -/
def relay (margin : Nat → Text) : Nat → List Text → List Text
  | _, [] => []
  | number, l :: ls => (margin number ++ Text.trim l) :: relay margin (number + 1) ls

end Layout

/-- A string whose lines are trimmed and put behind margins. There is no margin in front of the
opening quote. -/
def Lexer.Literal.relaid (margin : Nat → Text) : Literal → Literal
  | ⟨line, []⟩ => ⟨line, []⟩
  | ⟨line, p :: ps⟩ => ⟨line, Text.trim p :: Layout.relay margin (line + 1) ps⟩

namespace Layout

/-- The strings of some lines that are put behind margins: a string that started above has a margin
in front of its first line as well. -/
def relaidFrom (margin : Nat → Text) : Mode → Nat → List Literal → List Literal
  | .root, _, ls => ls.map (Literal.relaid margin)
  | .string, _, [] => []
  | .string, number, l :: ls => ⟨number, relay margin number l.parts⟩ :: ls.map (.relaid margin)

variable (margin : Nat → Text)

/-! ## One line -/

/-- The strings that start in a line or below are relaid line by line. -/
lemma over_relaid_root (number : Nat) (l : LineStrings) (below : List Literal) :
    l.trimmed.over number (relaidFrom margin l.mode (number + 1) below) =
      (l.over number below).map (Literal.relaid margin) := by
  obtain ⟨ended, pending⟩ := l
  have hended : (ended.map Text.trim).map (fun s => (⟨number, [s]⟩ : Literal)) =
      (ended.map fun s => (⟨number, [s]⟩ : Literal)).map (Literal.relaid margin) := by
    rw [List.map_map, List.map_map]
    rfl
  rw [LineStrings.over, LineStrings.over, List.map_append, ← hended, LineStrings.trimmed]
  congr 1
  cases pending with
  | none => rfl
  | some s => cases below <;> rfl

/-- The string that a line starts in is relaid with a margin in front of what stands in the line. -/
lemma over_relaid_string (number : Nat) {l : LineStrings} (hl : l ≠ ⟨[], none⟩)
    (below : List Literal) :
    (l.trimmed.addFront (margin number)).over number
        (relaidFrom margin l.mode (number + 1) below) =
      relaidFrom margin .string number (l.over number below) := by
  obtain ⟨_ | ⟨s, ended⟩, pending⟩ := l
  · cases pending with
    | none => exact absurd rfl hl
    | some s => cases below <;> rfl
  · -- the string ends in the line, and the others start in it or below
    have hothers := over_relaid_root margin number ⟨ended, pending⟩ below
    exact congrArg (⟨number, [margin number ++ Text.trim s]⟩ :: ·) hothers

/-- **Strings behind margins.** The strings of lines that are put behind margins of spaces are those
of the lines, relaid one by one. -/
lemma literalsFrom_relay (hmargin : ∀ n, ∀ c ∈ margin n, c = ' ') (mode : Mode) (number : Nat)
    {ls : List Text} (hls : ∀ l ∈ ls, '\n' ∉ l) :
    literalsFrom mode number (tokenizeLines mode (relay margin number ls)) =
      relaidFrom margin mode number (literalsFrom mode number (tokenizeLines mode ls)) := by
  induction ls generalizing mode number with
  | nil => cases mode <;> rfl
  | cons raw ls ih =>
    obtain ⟨hraw, hrest⟩ := List.forall_mem_cons.1 hls
    have hblank : isBlankText (margin number) = true := by
      refine List.all_eq_true.2 fun c hc => ?_
      rw [hmargin number c hc]
      decide
    have hfeed : '\n' ∉ margin number ++ Text.trim raw := by
      rw [List.mem_append, not_or]
      exact ⟨fun hmem => absurd (hmargin number _ hmem) (by decide), Text.not_mem_trim hraw⟩
    obtain ⟨hroot, hstring⟩ := Lexer.cut_append_left hblank (Text.trim raw)
    rw [relay, Lexer.literalsFrom_cons mode number hfeed, Lexer.literalsFrom_cons mode number hraw]
    -- a margin belongs to a string only where one goes on from above
    cases mode with
    | root =>
      rw [hroot, Lexer.cut_trim, LineStrings.mode_trimmed, ih _ _ hrest, over_relaid_root]
      rfl
    | string =>
      rw [hstring, Lexer.cut_trim, LineStrings.mode_addFront, LineStrings.mode_trimmed,
        ih _ _ hrest, over_relaid_string margin number (Lexer.cut_string_ne raw)]

/-! ## Whole texts -/

/-- A text laid out consists of its lines, each trimmed and indented by its depth. -/
lemma lines_render_eq_relay (width : Int) (t : Text) :
    Text.lines (render width t) = relay (indentAt width t) 1 (Text.lines t) := by
  have hfrom : ∀ above ls, Text.lines t = above ++ ls →
      (outlineFrom (levelBelow 0 above) ls).map (Line.render width) =
        relay (indentAt width t) (above.length + 1) ls := by
    intro above ls
    induction ls generalizing above with
    | nil => intro _; rfl
    | cons raw ls ih =>
      intro ht
      have hrest := ih (above ++ [raw]) (by rw [ht, List.append_assoc]; rfl)
      rw [List.length_append, List.length_singleton, levelBelow, List.foldl_append] at hrest
      rw [outlineFrom_cons, List.map_cons, relay, render_lineOf width ht rfl, ← hrest]
      rfl
  rw [lines_render, outline]
  exact hfrom [] (Text.lines t) rfl

/-- A string that ends in the line that it starts in stays as it is. -/
lemma relaid_of_quoted {l : Literal} {q : Text} (hl : l.parts = ['"' :: (q ++ ['"'])]) :
    l.relaid margin = l := by
  obtain ⟨line, parts⟩ := l
  obtain rfl : parts = _ := hl
  rw [Literal.relaid, Lexer.trim_quoted]
  rfl

/-- **Strings of a text laid out.** A text laid out has the strings of the text in the same order,
relaid: every part of a string is trimmed, and a part that is not the first one stands behind the
spaces for its line. So a string that ends in the line that it starts in stays as it is. -/
theorem format_literals [Platform] {width : Int} {t s : Text} (h : format width t = .ok s) :
    literals s = (literals t).map (Literal.relaid (indentAt width t)) ∧
      ∀ l ∈ literals t, ∀ q, l.parts = ['"' :: (q ++ ['"'])] →
        l.relaid (indentAt width t) = l := by
  refine ⟨?_, fun l _ q hl => relaid_of_quoted _ hl⟩
  obtain ⟨-, rfl⟩ := format_eq_ok_iff.1 h
  have hspaces : ∀ n, ∀ c ∈ indentAt width t n, c = ' ' := by
    intro n c hc
    rw [indentAt] at hc
    split at hc
    · cases hc
    · exact List.eq_of_mem_replicate hc
  rw [literals, literals, Lexer.tokenize, lines_render_eq_relay,
    literalsFrom_relay _ hspaces .root 1 fun l hl => Text.not_mem_of_mem_lines hl]
  rfl

section Usual

open Platform.Usual

/-- The second line of a label is indented with its line. -/
theorem format_literals_continued :
    ∃ s, format 4 "graph TD\nA[\"x\ny\"]".toList = .ok s ∧
      literals s = [⟨2, ["\"x".toList, "    y\"".toList]⟩] := by
  have hformat : format 4 "graph TD\nA[\"x\ny\"]".toList =
      .ok "graph TD\n    A[\"x\n    y\"]".toList := by
    decide +kernel
  have hliterals : literals "graph TD\nA[\"x\ny\"]".toList =
      [⟨2, ["\"x".toList, "y\"".toList]⟩] := by
    decide +kernel
  obtain ⟨hrelaid, -⟩ := format_literals hformat
  refine ⟨_, hformat, ?_⟩
  rw [hrelaid, hliterals]
  decide +kernel

/-- The spaces in front of a line that a label goes on to become part of the label. -/
theorem not_forall_format_literals :
    ¬∀ (width : Int) (t s : Text), format width t = .ok s →
      (literals s).map Literal.text = (literals t).map Literal.text := by
  intro h
  have hformat : format 4 "graph TD\nA[\"x\ny\"]".toList =
      .ok "graph TD\n    A[\"x\n    y\"]".toList := by
    decide +kernel
  exact absurd (h 4 _ _ hformat) (by decide +kernel)

end Usual

end Layout
end Mermaid
