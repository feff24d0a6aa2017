import Mathlib.Data.List.TakeWhile
import Mathlib.Tactic.Common
import Mermaid.Text.Basic
import Mermaid.Text.Raw

/-!
# Texts that can be encoded

A text can be encoded exactly when no half of a pair stands in it on its own. A text of characters
is one of these, and it is what is seen of itself.

* `RawText.halves?_eq_none_iff` says where no halves are found, and
  `RawText.utf16Fault?_eq_none_iff` and `RawText.utf8Fault?_eq_none_iff` what can be encoded;
* `RawText.map_legible_lines` says that a half does not end a line.
-/

namespace Mermaid

namespace RawText

lemma halves?_eq_none_iff {t : RawText} : t.halves? = none ↔ ∀ p ∈ t, p.isChar = true := by
  rw [← List.dropWhile_eq_nil_iff, halves?]
  cases t.dropWhile CodePoint.isChar with
  | nil => exact iff_of_true rfl rfl
  | cons p ps => exact iff_of_false nofun nofun

lemma utf16Fault?_eq_none_iff {t : RawText} :
    t.utf16Fault? = none ↔ ∀ p ∈ t, p.isChar = true := by
  rw [utf16Fault?, Option.map_eq_none_iff, halves?_eq_none_iff]

lemma utf8Fault?_eq_none_iff {t : RawText} : t.utf8Fault? = none ↔ ∀ p ∈ t, p.isChar = true := by
  rw [utf8Fault?, Option.map_eq_none_iff, halves?_eq_none_iff]

/-- The lines of a text are seen as the lines of what is seen of it. -/
theorem map_legible_lines (t : RawText) : t.lines.map legible = Text.lines t.legible := by
  have hhalf : Char.ofNat 0xFFFD ≠ '\n' := by decide
  induction t with
  | nil => rfl
  | cons p ps ih =>
    have hbreak : p = .char '\n' ↔ p.legible = '\n' := by
      cases p with
      | char c => simp [CodePoint.legible]
      | half n => simp [CodePoint.legible, hhalf]
    rw [lines, legible, List.map_cons, Text.lines, ← legible, ← ih]
    by_cases hp : p = .char '\n'
    · rw [if_pos hp, if_pos (hbreak.1 hp)]
      rfl
    · rw [if_neg hp, if_neg (mt hbreak.2 hp)]
      cases lines ps <;> rfl

/-- The lines of a text have no code points of their own. -/
lemma subset_of_mem_lines {t l : RawText} (hl : l ∈ t.lines) : l ⊆ t := by
  induction t generalizing l with
  | nil =>
    rw [List.mem_singleton.1 hl]
    exact List.Subset.refl _
  | cons p ps ih =>
    rw [lines] at hl
    split at hl
    · rcases List.mem_cons.1 hl with rfl | hrest
      · exact List.nil_subset _
      · exact List.subset_cons_of_subset p (ih hrest)
    · split at hl
      · rw [List.mem_singleton.1 hl]
        exact List.cons_subset_cons p (List.nil_subset ps)
      · next first rest hlines =>
        rcases List.mem_cons.1 hl with rfl | hrest
        · exact List.cons_subset_cons p (ih (hlines ▸ List.mem_cons_self))
        · exact List.subset_cons_of_subset p (ih (hlines ▸ List.mem_cons_of_mem first hrest))

end RawText

namespace Text

@[simp] lemma legible_raw (t : Text) : t.raw.legible = t := by
  rw [raw, RawText.legible, List.map_map]
  exact List.map_id _

lemma isChar_of_mem_raw {t : Text} {p : CodePoint} (hp : p ∈ t.raw) : p.isChar = true := by
  obtain ⟨c, -, rfl⟩ := List.mem_map.1 hp
  rfl

@[simp] lemma utf8Fault?_raw (t : Text) : t.raw.utf8Fault? = none :=
  RawText.utf8Fault?_eq_none_iff.2 fun _ => isChar_of_mem_raw

end Text

end Mermaid
