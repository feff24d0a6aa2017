import Mermaid.Proofs.Number.Sign
import Mermaid.Proofs.Settings.Choice

/-!
# Settings can be used

A value is read for a field only if it fits the field, so whatever the client and the project file
give, the settings resolved from it can be used. There is one gap: a NaN does not lie below zero,
and so it is read as a time.

* `Settings.Field.IsUsable` says which values a field should have;
* `Settings.Field.isUsable_of_meaning` says that those are the ones that are read, NaNs aside;
* `Resolver.isUsable_of_resolve` says what this means for settings that are resolved.
-/

namespace Mermaid

namespace Settings

/-- Whether a layout can be indented by a width. -/
def IsWidth (n : Nat) : Prop := 1 ≤ n ∧ n ≤ 16

/-- Whether a value of a field can be used. -/
def Field.IsUsable : (f : Field) → f.Value → Prop
  | .debounce, x | .validatorTimeout, x => Binary64.IsNonneg x
  | .indentWidth, n => IsWidth n
  | .validator, c => ValidatorChoice.name c = "structural" ∨ ValidatorChoice.name c = "command"
  | .validatorCommand, words => (words : List String) ≠ []
  | .logLevel, _ => True

/-- Whether a value of a field is a NaN. -/
def Field.IsNaN : (f : Field) → f.Value → Prop
  | .debounce, x | .validatorTimeout, x => (x : Binary64) = .nan
  | _, _ => False

/-- A time that is read is a number at or above zero, or a NaN. -/
lemma readTime_nonneg_or {v : Raw} {x : Binary64} (h : (readTime v).value? = some x) :
    x.IsNonneg ∨ x = .nan := by
  cases v with
  | integer i =>
    rw [readTime] at h
    split at h
    · cases h
    · next hi =>
      split at h
      · next y hy =>
        obtain rfl : y = x := Option.some.inj h
        exact .inl (Binary64.isNonneg_of_ofInt? (Int.not_lt.1 hi) hy)
      · cases h
  | float y =>
    rw [readTime] at h
    split at h
    · cases h
    · next hsign =>
      obtain rfl : y = x := Option.some.inj h
      by_cases hnan : y = .nan
      · exact .inr hnan
      · exact .inl ((Binary64.isNonneg_iff y).2 ⟨hnan, Bool.eq_false_iff.2 hsign⟩)
  | _ => cases h

/-- A width that is read lies between 1 and 16. -/
lemma isWidth_of_readWidth {v : Raw} {n : Nat} (h : (readWidth v).value? = some n) :
    IsWidth n := by
  cases v with
  | integer i =>
    rw [readWidth] at h
    split at h
    · next hi =>
      obtain rfl : i.toNat = n := Option.some.inj h
      rw [Bool.and_eq_true, decide_eq_true_eq, decide_eq_true_eq] at hi
      exact ⟨by omega, by omega⟩
    · cases h
  | _ => cases h

/-- A value that is read for a field can be used, or is a NaN. -/
theorem Field.isUsable_of_meaning {f : Field} {v : Raw} {a : f.Value}
    (h : (f.meaning v).value? = some a) : f.IsUsable a ∨ f.IsNaN a := by
  cases f with
  | debounce => exact readTime_nonneg_or h
  | validatorTimeout => exact readTime_nonneg_or h
  | indentWidth => exact .inl (isWidth_of_readWidth h)
  | validator =>
    left
    cases a with
    | structural => exact .inl rfl
    | command => exact .inr rfl
  | validatorCommand =>
    left
    rintro rfl
    exact readCommand_ne_nil v h
  | logLevel => exact .inl trivial

lemma latest?_usable {gs : List Giving} {f : Field} {a : f.Value} (h : latest? gs f = some a) :
    f.IsUsable a ∨ f.IsNaN a := by
  obtain ⟨o, -, ho⟩ := List.exists_of_findSome?_eq_some h
  exact Field.isUsable_of_meaning ho

lemma projectValue?_usable [Platform] {files : FileTree} {root : Option String} {f : Field}
    {a : f.Value} (h : projectValue? files root f = some a) : f.IsUsable a ∨ f.IsNaN a := by
  obtain ⟨table, -, ha⟩ := Option.bind_eq_some_iff.1 h
  exact Field.isUsable_of_meaning ha

/-- The defaults can be used. -/
lemma default_usable {f : Field} {a : f.Value} (h : ({} : Settings).value? f = some a) :
    f.IsUsable a := by
  have hhalf : (Binary64.ofRatio false 1 2).IsNonneg := Binary64.isNonneg_ofRatio 1 2
  have hten : (Binary64.ofRatio false 10 1).IsNonneg := Binary64.isNonneg_ofRatio 10 1
  cases f <;> cases h
  · exact hhalf
  · exact ⟨by decide, by decide⟩
  · exact .inl rfl
  · exact List.cons_ne_nil _ _
  · exact hten

end Settings

namespace Resolver

open Settings

/-- Each value of settings that are resolved can be used, or it is a NaN that the client or the
project file has given. -/
theorem isUsable_of_resolve [Platform] {files : FileTree} {root : Option String}
    {gs : List Giving} {s : Settings} (h : ((takeAll root gs).resolve files).result = .ok s)
    {f : Field} {a : f.Value} (ha : s.value? f = some a) : f.IsUsable a ∨ f.IsNaN a ∧
      (latest? gs.reverse f).or (projectValue? files root f) = some a := by
  rw [value?_resolve_takeAll h] at ha
  rcases Option.or_eq_some_iff.1 ha with hgiven | ⟨-, hdefault⟩
  · rcases Option.or_eq_some_iff.1 hgiven with hlatest | ⟨-, hproject⟩
    · exact (latest?_usable hlatest).imp_right fun hnan => ⟨hnan, hgiven⟩
    · exact (projectValue?_usable hproject).imp_right fun hnan => ⟨hnan, hgiven⟩
  · exact .inl (default_usable hdefault)

end Resolver

end Mermaid
