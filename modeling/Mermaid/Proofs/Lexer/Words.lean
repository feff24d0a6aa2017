import Mermaid.Lexer
import Mathlib.Tactic.Common
import Mathlib.Data.List.Basic

/-!
# The grammar of words

A word starts with a letter and goes on with word characters and dollar signs; a hyphen may stand
inside it, alone and in front of such a character. The lexer takes the longest word that a line
starts with.
-/

namespace Mermaid.Lexer

/-- Whether a text consists of characters of a class, with single hyphens in front of some. -/
inductive IsHyphenated (p : Char → Bool) : Text → Prop
  | nil : IsHyphenated p []
  | char {c : Char} {u : Text} (hc : p c = true) (hu : IsHyphenated p u) : IsHyphenated p (c :: u)
  | hyphen {c : Char} {u : Text} (hc : p c = true) (hu : IsHyphenated p u) :
    IsHyphenated p ('-' :: c :: u)

/-- Whether a text is a word. -/
inductive IsWord : Text → Prop
  | mk {c : Char} {u : Text} (hc : isWordStart c = true) (hu : IsHyphenated isWordPart u) :
    IsWord (c :: u)

section

variable {p : Char → Bool} {u v cs : Text}

lemma IsHyphenated.hyphen_cons {c : Char} (hc : p c = true) (h : IsHyphenated p (c :: u)) :
    IsHyphenated p ('-' :: c :: u) := by
  cases h with
  | char _ hu => exact .hyphen hc hu
  | hyphen hd hu => exact .hyphen hc (.char hd hu)

/-- The run of characters with single hyphens inside is hyphenated. -/
lemma isHyphenated_hyphenatedRun (p : Char → Bool) (cs : Text) :
    IsHyphenated p (Text.hyphenatedRun p cs) := by
  induction cs with
  | nil => exact .nil
  | cons c cs ih =>
    rw [Text.hyphenatedRun]
    split
    · next hc => exact .char hc ih
    · split
      · next hhyphen =>
        rw [Bool.and_eq_true, decide_eq_true_eq] at hhyphen
        obtain ⟨rfl, hhead⟩ := hhyphen
        -- the run goes on with the character that the hyphen stands in front of
        cases cs with
        | nil => cases hhead
        | cons d ds =>
          have hd : p d = true := hhead
          rw [Text.hyphenatedRun, if_pos hd] at ih ⊢
          exact ih.hyphen_cons hd
      · exact .nil

/-- No hyphenated text at the head of another text is longer than the run. -/
lemma IsHyphenated.isPrefix_hyphenatedRun (hv : IsHyphenated p v) (hhead : v <+: cs) :
    v <+: Text.hyphenatedRun p cs := by
  induction hv generalizing cs with
  | nil => exact List.nil_prefix
  | @char c u hc _ ih =>
    obtain ⟨rest, rfl⟩ := hhead
    rw [List.cons_append, Text.hyphenatedRun, if_pos hc]
    exact (List.prefix_cons_inj c).2 (ih (List.prefix_append u rest))
  | @hyphen c u hc _ ih =>
    obtain ⟨rest, rfl⟩ := hhead
    have hinner : c :: u <+: Text.hyphenatedRun p (c :: u ++ rest) := by
      rw [List.cons_append, Text.hyphenatedRun, if_pos hc]
      exact (List.prefix_cons_inj c).2 (ih (List.prefix_append u rest))
    rw [List.cons_append, Text.hyphenatedRun]
    split
    · exact (List.prefix_cons_inj '-').2 hinner
    · rw [if_pos (by rw [Bool.and_eq_true, decide_eq_true_eq]; exact ⟨rfl, hc⟩)]
      exact (List.prefix_cons_inj '-').2 hinner

end

/-- What the lexer takes as a word is one. -/
lemma isWord_word {cs : Text} (h : word cs ≠ []) : IsWord (word cs) := by
  cases cs with
  | nil => exact absurd rfl h
  | cons c cs =>
    rw [word] at h ⊢
    split at h
    · next hc =>
      rw [if_pos hc]
      exact .mk hc (isHyphenated_hyphenatedRun _ cs)
    · exact absurd rfl h

/-- **The longest word.** Every word that a line starts with is a part of the one that the lexer
takes. -/
theorem IsWord.isPrefix_word {v cs : Text} (hv : IsWord v) (hhead : v <+: cs) :
    v <+: word cs := by
  cases hv with
  | @mk c u hc hu =>
    obtain ⟨rest, rfl⟩ := hhead
    rw [List.cons_append, word, if_pos hc]
    exact (List.prefix_cons_inj c).2 (hu.isPrefix_hyphenatedRun (List.prefix_append u rest))

/-- The lexer takes a word from the head of a line exactly when no longer word stands there. -/
theorem word_append_eq_iff {w rest : Text} (hw : IsWord w) :
    word (w ++ rest) = w ↔ ∀ v, IsWord v → v <+: w ++ rest → v <+: w := by
  have htaken : w <+: word (w ++ rest) := hw.isPrefix_word (List.prefix_append w rest)
  constructor
  · intro h v hv hhead
    rw [← h]
    exact hv.isPrefix_word hhead
  · intro hlongest
    have hne : word (w ++ rest) ≠ [] := by
      intro hnil
      rw [hnil, List.prefix_nil] at htaken
      rw [htaken] at hw
      cases hw
    exact (hlongest _ (isWord_word hne) (word_isPrefix _)).eq_of_length_le htaken.length_le

end Mermaid.Lexer
