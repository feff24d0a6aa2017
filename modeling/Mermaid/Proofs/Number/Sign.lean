import Mathlib.Data.Rat.Cast.Order
import Mermaid.Number.Binary64

/-!
# Signs of doubles

A double that does not lie below zero need not lie at or above it, since a NaN does neither.

* `Binary64.isNonneg_iff` says that this is the only exception;
* `Binary64.isNonneg_of_ofInt?` says that rounding a whole number does not turn it negative.
-/

namespace Mermaid.Binary64

/-- Whether a double is a number at or above zero: a finite one with such a value, or infinity. -/
def IsNonneg (x : Binary64) : Prop := x = .infinite false ∨ ∃ q, x.toRat? = some q ∧ 0 ≤ q

/-- The value of a finite double without its sign is positive, or zero with the significand. -/
private lemma size_cases (s : Nat) (e : Int) :
    ∃ size : Rat, (∀ negative, (finite negative s e).toRat? =
      some (if negative then -size else size)) ∧ (s = 0 ∧ size = 0 ∨ s ≠ 0 ∧ 0 < size) := by
  refine ⟨_, fun negative => rfl, ?_⟩
  rcases Nat.eq_zero_or_pos s with rfl | hpos
  · simp
  · refine .inr ⟨hpos.ne', ?_⟩
    have hs : (0 : Rat) < s := Nat.cast_pos.2 hpos
    have hpow : ∀ n : Nat, (0 : Rat) < (Nat.pow 2 n : Nat) :=
      fun n => Nat.cast_pos.2 (Nat.pow_pos Nat.two_pos)
    split
    · rw [Nat.cast_mul]
      exact mul_pos hs (hpow _)
    · rw [Rat.mkRat_eq_div]
      exact div_pos (by exact_mod_cast hs) (by exact_mod_cast hpow _)

/-- A double is at or above zero exactly when it is a number that does not lie below. -/
theorem isNonneg_iff (x : Binary64) : x.IsNonneg ↔ x ≠ .nan ∧ x.isNegative = false := by
  cases x with
  | nan => simp [IsNonneg, toRat?]
  | infinite negative => simp [IsNonneg, toRat?, isNegative]
  | finite negative s e =>
    obtain ⟨size, hvalue, hsize⟩ := size_cases s e
    simp only [IsNonneg, hvalue negative, reduceCtorEq, false_or, Option.some.injEq,
      exists_eq_left', ne_eq, not_false_eq_true, true_and, isNegative]
    rcases hsize with ⟨rfl, rfl⟩ | ⟨hs, hpos⟩
    · simp
    · cases negative with
      | false => simp [hpos.le]
      | true => simp [hs, hpos]

/-- Rounding keeps the sign, and gives a number. -/
lemma isNonneg_ofRatio (num den : Nat) : (ofRatio false num den).IsNonneg := by
  -- a number that is rounded is finite or the infinity of its sign, and never a NaN
  have hparts : ∀ s e, ofParts false s e ≠ .nan ∧ (ofParts false s e).isNegative = false := by
    intro s e
    unfold ofParts
    dsimp only
    split <;> split <;> exact ⟨nofun, rfl⟩
  rw [isNonneg_iff]
  unfold ofRatio
  split
  · exact ⟨nofun, rfl⟩
  · exact hparts _ _

/-- The double nearest to a whole number that is not negative is not negative either. -/
lemma isNonneg_of_ofInt? {i : Int} (hi : 0 ≤ i) {x : Binary64} (h : ofInt? i = some x) :
    x.IsNonneg := by
  have hnonneg := isNonneg_ofRatio i.natAbs 1
  rw [ofInt?, decide_eq_false (Int.not_lt.2 hi)] at h
  split at h
  · cases h
  · obtain rfl := Option.some.inj h
    exact hnonneg

end Mermaid.Binary64
