import Mathlib.Tactic.Common
import Mermaid.Text.Utf16

/-!
# Texts in UTF-16

Editors keep a document as UTF-16 code units. A character outside the basic plane becomes a pair of
surrogates, any other one a unit of its own, and a text can be read back from its units.
-/

namespace Mermaid.Text

/-- The code units of a character. -/
def codeUnits (c : Char) : List Nat :=
  if c.toNat < 0x10000 then [c.toNat]
  else [0xD800 + (c.toNat - 0x10000) / 0x400, 0xDC00 + (c.toNat - 0x10000) % 0x400]

/-- The code units of a text. -/
def utf16 (t : Text) : List Nat := t.flatMap codeUnits

@[simp] lemma utf16_nil : utf16 [] = [] := rfl

@[simp] lemma utf16_cons (c : Char) (t : Text) : utf16 (c :: t) = codeUnits c ++ utf16 t := rfl

@[simp] lemma utf16_append (t u : Text) : utf16 (t ++ u) = utf16 t ++ utf16 u :=
  List.flatMap_append

/-- The length of a text counts its code units. -/
@[simp] theorem length_utf16 (t : Text) : (utf16 t).length = units t := by
  induction t with
  | nil => rfl
  | cons c t ih =>
    have hc : (codeUnits c).length = unitsOfChar c := by
      rw [codeUnits, unitsOfChar, apply_ite List.length]
      rfl
    rw [utf16_cons, List.length_append, hc, ih, units_cons]

/-- A text has at least as many units as characters. -/
lemma length_le_units (t : Text) : t.length ≤ units t := by
  induction t with
  | nil => simp
  | cons c t ih =>
    have hc : 1 ≤ unitsOfChar c := by
      rw [unitsOfChar]
      split <;> omega
    rw [List.length_cons, units_cons]
    omega

/-- A text has as many units as characters if and only if all of them are in the basic plane. -/
lemma units_le_length_iff (t : Text) : units t ≤ t.length ↔ ∀ c ∈ t, c.toNat < 0x10000 := by
  induction t with
  | nil => simp
  | cons c t ih =>
    have hle := length_le_units t
    rw [List.forall_mem_cons, ← ih, units_cons, List.length_cons, unitsOfChar]
    split
    · next hc => simp only [hc, true_and]; omega
    · next hc => simp only [hc, false_and, iff_false]; omega

/-- No character is a surrogate. -/
lemma toNat_not_surrogate (c : Char) :
    c.toNat < 0xD800 ∨ 0xDFFF < c.toNat ∧ c.toNat < 0x110000 := by
  have hvalid := c.valid
  simp only [UInt32.isValidChar, Nat.isValidChar] at hvalid
  have hval : c.toNat = c.val.toNat := rfl
  omega

/-- The units of a character tell it, and where the next one starts. -/
lemma codeUnits_append_inj {c d : Char} {us vs : List Nat}
    (h : codeUnits c ++ us = codeUnits d ++ vs) : c = d ∧ us = vs := by
  have hc := toNat_not_surrogate c
  have hd := toNat_not_surrogate d
  rw [codeUnits, codeUnits] at h
  rw [← Char.toNat_inj]
  -- the first unit says whether there is a second one
  split at h <;> split at h <;>
    simp only [List.cons_append, List.nil_append, List.cons.injEq] at h
  · exact h
  · omega
  · omega
  · obtain ⟨hhigh, hlow, hrest⟩ := h
    exact ⟨by omega, hrest⟩

/-- A text can be read back from its code units. -/
theorem utf16_injective : Function.Injective utf16 := by
  intro t u h
  induction t generalizing u with
  | nil =>
    cases u with
    | nil => rfl
    | cons d u =>
      rw [utf16_cons, codeUnits] at h
      split at h <;> simp at h
  | cons c t ih =>
    cases u with
    | nil =>
      rw [utf16_cons, codeUnits] at h
      split at h <;> simp at h
    | cons d u =>
      obtain ⟨hchar, hrest⟩ := codeUnits_append_inj h
      rw [hchar, ih hrest]

end Mermaid.Text
