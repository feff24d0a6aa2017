import Mermaid.Editor.Completion
import Mermaid.Proofs.Editor.Matches

/-!
# The word that a cursor touches

An accepted item replaces the maximal run of word characters that the cursor lies in or at one of
whose ends it stands. There is exactly one such run at each column of a line, if the empty run
counts where no word character stands next to the cursor.

* `Completion.TouchedWord` says which part of a line that is, and `TouchedWord.unique` that there is
  no other;
* `Completion.replacement_touches` is the main statement, for every line and character.
-/

namespace Mermaid

namespace Text

/-- Whether a column of a line holds a word character. -/
def isWordAt (l : Text) (i : Nat) : Bool := l[i]?.any isWord

/-- A hyphen is no word character. -/
lemma isWord_hyphen : isWord '-' = false := by
  decide +kernel

lemma isWordAt_drop (line : Text) (n i : Nat) :
    isWordAt (line.drop n) i = isWordAt line (n + i) := by
  rw [isWordAt, isWordAt, List.getElem?_drop]

lemma lt_length_of_isWordAt {line : Text} {i : Nat} (h : isWordAt line i = true) :
    i < line.length := by
  by_contra hge
  rw [isWordAt, List.getElem?_eq_none (by omega)] at h
  cases h

/-- The characters of a class at the head of a text end in front of the first one of another class.
-/
lemma takeWhile_columns (p : Char → Bool) (t : Text) :
    (∀ i < (t.takeWhile p).length, t[i]?.any p = true) ∧
      t[(t.takeWhile p).length]?.any p = false := by
  induction t with
  | nil => exact ⟨by simp, rfl⟩
  | cons c t ih =>
    obtain ⟨hclass, hstop⟩ := ih
    rw [List.takeWhile_cons]
    by_cases hc : p c = true
    · rw [if_pos hc]
      refine ⟨fun i hi => ?_, hstop⟩
      cases i with
      | zero => exact hc
      | succ i => exact hclass i (Nat.lt_of_succ_lt_succ hi)
    · rw [if_neg hc]
      exact ⟨by simp, by simpa using hc⟩

end Text

namespace Run

open Text (isWordAt)

/-- The word at the head of a text ends in front of the first character that belongs to no word. -/
lemma isWordAt_wordAt (t : Text) :
    (∀ i < (wordAt t).length, isWordAt t i = true) ∧ isWordAt t (wordAt t).length = false :=
  Text.takeWhile_columns Text.isWord t

/-- Where a word character stands, there is a word to be found. -/
lemma wordAt_drop_ne_nil {line : Text} {i : Nat} (h : isWordAt line i = true) :
    wordAt (line.drop i) ≠ [] := by
  intro hnil
  have hstop := (isWordAt_wordAt (line.drop i)).2
  rw [hnil, Text.isWordAt_drop] at hstop
  cases h.symm.trans hstop

end Run

namespace Completion

open Text (isWordAt)

/-- Whether a part of a line is the word that a column touches: the column lies in it or at one of
its ends, all its characters belong to words, and none of those next to it does. -/
structure TouchedWord (line : Text) (column start stop : Nat) : Prop where
  start_le : start ≤ column
  le_stop : column ≤ stop
  stop_le : stop ≤ line.length
  word : ∀ i, start ≤ i → i < stop → isWordAt line i = true
  left : ∀ i, i + 1 = start → isWordAt line i = false
  right : isWordAt line stop = false

namespace TouchedWord

variable {line : Text} {column start stop : Nat}

/-- A column touches one word only. -/
theorem unique {start' stop' : Nat} (h : TouchedWord line column start stop)
    (h' : TouchedWord line column start' stop') : start' = start ∧ stop' = stop := by
  have hle := h.start_le
  have hle' := h'.start_le
  have hstop := h.le_stop
  have hstop' := h'.le_stop
  constructor
  · -- the character in front of the later start would belong to the word with the earlier one
    by_contra hne
    rcases Nat.lt_or_gt_of_ne hne with hlt | hlt
    · have hword := h'.word (start - 1) (by omega) (by omega)
      cases hword.symm.trans (h.left (start - 1) (by omega))
    · have hword := h.word (start' - 1) (by omega) (by omega)
      cases hword.symm.trans (h'.left (start' - 1) (by omega))
  · by_contra hne
    rcases Nat.lt_or_gt_of_ne hne with hlt | hlt
    · cases (h.word stop' (by omega) hlt).symm.trans h'.right
    · cases (h'.word stop (by omega) hlt).symm.trans h.right

/-- All columns of a word touch it. -/
lemma of_within {c : Nat} (h : TouchedWord line column start stop) (hstart : start ≤ c)
    (hstop : c ≤ stop) : TouchedWord line c start stop :=
  ⟨hstart, hstop, h.stop_le, h.word, h.left, h.right⟩

/-- The word is empty if and only if no word character stands next to the column. -/
lemma start_eq_stop_iff (h : TouchedWord line column start stop) :
    start = stop ↔
      isWordAt line column = false ∧ ∀ i, i + 1 = column → isWordAt line i = false := by
  have hle := h.start_le
  have hstop := h.le_stop
  constructor
  · intro heq
    obtain rfl : column = stop := by omega
    exact ⟨h.right, fun i hi => h.left i (by omega)⟩
  · rintro ⟨hright, hleft⟩
    have hempty : TouchedWord line column column column :=
      ⟨Nat.le_refl _, Nat.le_refl _, Nat.le_trans hstop h.stop_le, fun i _ _ => by omega, hleft,
        hright⟩
    obtain ⟨rfl, rfl⟩ := h.unique hempty
    rfl

/-- A match is the word that its columns touch. -/
lemma of_mem_all {r : Run} (hr : r ∈ Run.all Run.wordAt line) (h : r.touches column = true) :
    TouchedWord line column r.start r.stop := by
  have hmatch : ∀ s ∈ Run.all Run.wordAt line, s.start < s.stop ∧
      (∀ i, s.start ≤ i → i < s.stop → isWordAt line i = true) ∧ isWordAt line s.stop = false := by
    intro s hs
    obtain ⟨hword, hright⟩ := Run.isWordAt_wordAt (line.drop s.start)
    rw [Run.find_of_mem hs] at hword hright
    rw [Text.isWordAt_drop] at hright
    refine ⟨Run.start_lt_stop_of_mem hs, fun i hle hlt => ?_, hright⟩
    rw [Run.stop] at hlt
    have hwithin := hword (i - s.start) (by omega)
    rw [Text.isWordAt_drop] at hwithin
    rwa [Nat.add_sub_cancel' hle] at hwithin
  obtain ⟨hlt, hword, hright⟩ := hmatch r hr
  simp only [Run.touches, Bool.and_eq_true, decide_eq_true_eq] at h
  refine ⟨h.1, h.2, ?_, hword, fun i hi => ?_, hright⟩
  · have hlast := Text.lt_length_of_isWordAt (hword (r.stop - 1) (by omega) (by omega))
    omega
  · -- a word character in front of the match would be covered by another one that ends there, but a
    -- match ends in front of a character that belongs to no word
    by_contra hleft
    have hleft : isWordAt line i = true := by simpa using hleft
    obtain ⟨s, hs, hstart, hstop⟩ :=
      Run.all_covers (Text.lt_length_of_isWordAt hleft) (Run.wordAt_drop_ne_nil hleft)
    obtain ⟨-, -, hend⟩ := hmatch s hs
    have hne : s.stop ≠ r.start := by
      intro heq
      rw [heq, hword r.start (Nat.le_refl _) hlt] at hend
      cases hend
    rcases Run.disjoint_of_mem_all hr hs with rfl | hbefore | hbehind
    · omega
    · omega
    · omega

end TouchedWord

/-! ## Integers moved into a range -/

lemma cast_clamp (high : Nat) (n : Int) : (clamp high n : Int) = max 0 (min n high) := by
  unfold clamp
  split
  · omega
  · split
    · omega
    · omega

lemma clamp_le (high : Nat) (n : Int) : clamp high n ≤ high := by
  have h := cast_clamp high n
  omega

@[simp] lemma clamp_natCast (high n : Nat) : clamp high n = min n high := by
  have h := cast_clamp high n
  omega

/-! ## The replaced part -/

/-- The columns of the word that a cursor touches are those of a touched word. -/
lemma touchedWord_wordRange (line : Text) (character : Int) :
    TouchedWord line (clamp line.length character) (wordRange line character).1
      (wordRange line character).2 := by
  have hle := clamp_le line.length character
  unfold wordRange
  generalize clamp line.length character = column at hle ⊢
  dsimp only
  cases hfound : Run.touching? Run.wordAt line column with
  | some r =>
    obtain ⟨hr, htouches⟩ := Run.mem_of_touching? hfound
    exact .of_mem_all hr htouches
  | none =>
    -- a word character next to the column would be covered by a match that the column touches
    have hnone : ∀ i, i ≤ column → column ≤ i + 1 → isWordAt line i = false := by
      intro i hi hi'
      by_contra hword
      have hword : isWordAt line i = true := by simpa using hword
      obtain ⟨r, hr, hstart, hstop⟩ := Run.all_covers
        (Text.lt_length_of_isWordAt hword) (Run.wordAt_drop_ne_nil hword)
      apply Run.touching?_eq_none_iff.1 hfound r hr
      simp only [Run.touches, Bool.and_eq_true, decide_eq_true_eq]
      omega
    show TouchedWord line column column column
    exact ⟨Nat.le_refl _, Nat.le_refl _, hle, fun i _ _ => by omega,
      fun i hi => hnone i (by omega) (by omega), hnone column (Nat.le_refl _) (by omega)⟩

/-- The replaced part is a part of the line nearest to the one that is asked for. -/
lemma replacement_eq {t l : Text} {line : Int}
    (hl : (Text.lines t)[clamp ((Text.lines t).length - 1) line]? = some l) (character : Int) :
    replacement t line character = .onLine (clamp ((Text.lines t).length - 1) line)
      (wordRange l character).1 (wordRange l character).2 := by
  rw [replacement]
  dsimp only
  rw [List.getD_eq_getElem?_getD, hl, Option.getD_some]

/-- **The replaced part** lies in the line nearest to the one that is asked for, and is the one word
that the column nearest to the character touches. It is empty only where no word character stands
next to that column; every cursor from its start to its end gives it again, and it is the match of
the line, if there is any, that the column touches. -/
theorem replacement_touches (t : Text) (line character : Int) :
    ∃ n column start stop : Nat, ∃ l : Text,
      replacement t line character = .onLine n start stop ∧
      (n : Int) = max 0 (min line ((Text.lines t).length - 1)) ∧ (Text.lines t)[n]? = some l ∧
      (column : Int) = max 0 (min character l.length) ∧
      TouchedWord l column start stop ∧
      (∀ start' stop', TouchedWord l column start' stop' → start' = start ∧ stop' = stop) ∧
      (start = stop ↔
        isWordAt l column = false ∧ ∀ i, i + 1 = column → isWordAt l i = false) ∧
      (∀ c : Nat, start ≤ c → c ≤ stop →
        replacement t line c = replacement t line character) ∧
      ∀ r ∈ Run.all Run.wordAt l, r.touches column = true → r.start = start ∧ r.stop = stop := by
  have hpos : 0 < (Text.lines t).length := List.length_pos_iff.2 (Text.lines_ne_nil t)
  have hle := clamp_le ((Text.lines t).length - 1) line
  obtain ⟨l, hl⟩ : ∃ l, (Text.lines t)[clamp ((Text.lines t).length - 1) line]? = some l :=
    ⟨_, List.getElem?_eq_getElem (by omega)⟩
  have htouched := touchedWord_wordRange l character
  refine ⟨_, clamp l.length character, (wordRange l character).1, (wordRange l character).2, l,
    replacement_eq hl character, ?_, hl, cast_clamp l.length character, htouched,
    fun _ _ h => htouched.unique h, htouched.start_eq_stop_iff, ?_, ?_⟩
  · rw [cast_clamp]
    omega
  · -- the word that touches the one column touches the other one too
    intro c hstart hstop
    have hother := touchedWord_wordRange l c
    rw [clamp_natCast, Nat.min_eq_left (Nat.le_trans hstop htouched.stop_le)] at hother
    obtain ⟨hstart', hstop'⟩ := (htouched.of_within hstart hstop).unique hother
    rw [replacement_eq hl, replacement_eq hl, hstart', hstop']
  · intro r hr htouches
    exact htouched.unique (.of_mem_all hr htouches)

end Completion

end Mermaid
