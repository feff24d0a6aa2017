import Mermaid.Lexer
import Mermaid.Proofs.Editor.TouchedWord

/-!
# The tokens of a line by their columns

The editor looks for words, which may have single hyphens inside, and for runs of glyph characters.
What a column belongs to can be told from the column and its two neighbours: a hyphen between two
word characters is a part of a word, and any other hyphen is a part of a glyph. The tokens of a line
are the maximal runs of columns of one kind, so they meet where one kind follows on the other, and
nowhere else.

* `Text.InWord` and `Text.InGlyph` are the two kinds of columns;
* `Run.mem_all_tokenAt_iff` says which parts of a line are its tokens;
* `Run.meet_iff` says at which columns two tokens meet.
-/

namespace Mermaid

namespace Text

/-- Whether a column of a line holds a character of an edge glyph. -/
def isGlyphAt (l : Text) (i : Nat) : Bool := l[i]?.any Run.isGlyph

/-- Whether a column of a line holds a hyphen between two word characters. -/
def IsJoint (l : Text) (i : Nat) : Prop :=
  l[i]? = some '-' ∧ isWordAt l (i + 1) = true ∧ ∃ j, j + 1 = i ∧ isWordAt l j = true

/-- Whether a column of a line belongs to a word. -/
def InWord (l : Text) (i : Nat) : Prop := isWordAt l i = true ∨ IsJoint l i

/-- Whether a column of a line belongs to an edge glyph. -/
def InGlyph (l : Text) (i : Nat) : Prop := isGlyphAt l i = true ∧ ¬InWord l i

variable {l : Text} {i : Nat}

/-- No word character is a part of a glyph. -/
lemma isGlyphAt_of_isWordAt (h : isWordAt l i = true) : isGlyphAt l i = false := by
  have hglyphs : (['-', '=', '.', '<', '>'].all fun c => !isWord c) = true := by decide +kernel
  rw [isWordAt] at h
  rw [isGlyphAt]
  cases hc : l[i]? with
  | none => rfl
  | some c =>
    rw [hc] at h
    show Run.isGlyph c = false
    by_contra hglyph
    rw [Bool.not_eq_false, Run.isGlyph, List.contains_iff_mem] at hglyph
    have hnot := List.all_eq_true.1 hglyphs c hglyph
    exact absurd hnot (by simpa using h)

lemma isGlyphAt_of_isJoint (h : IsJoint l i) : isGlyphAt l i = true := by
  rw [isGlyphAt, h.1]
  rfl

lemma isWordAt_of_hyphen (h : l[i]? = some '-') : isWordAt l i = false := by
  rw [isWordAt, h]
  exact isWord_hyphen

lemma isGlyphAt_drop (l : Text) (n i : Nat) : isGlyphAt (l.drop n) i = isGlyphAt l (n + i) := by
  rw [isGlyphAt, isGlyphAt, List.getElem?_drop]

lemma headIs_isWord (t : Text) : headIs isWord t = isWordAt t 0 := by
  cases t <;> rfl

/-- A word with hyphens inside, as far as it goes, and what ends it. -/
lemma hyphenatedRun_columns (t : Text) :
    (∀ i < (hyphenatedRun isWord t).length,
      isWordAt t i = true ∨ t[i]? = some '-' ∧ isWordAt t (i + 1) = true) ∧
      isWordAt t (hyphenatedRun isWord t).length = false ∧
      (t[(hyphenatedRun isWord t).length]? = some '-' →
        isWordAt t ((hyphenatedRun isWord t).length + 1) = false) := by
  induction t with
  | nil => exact ⟨by simp [hyphenatedRun], rfl, by simp [hyphenatedRun]⟩
  | cons c t ih =>
    obtain ⟨hrun, hends⟩ := ih
    rw [hyphenatedRun]
    by_cases hc : isWord c = true
    · rw [if_pos hc]
      refine ⟨fun i hi => ?_, hends⟩
      cases i with
      | zero => exact .inl hc
      | succ i => exact hrun i (Nat.lt_of_succ_lt_succ hi)
    · rw [if_neg hc]
      by_cases hhyphen : (c = '-' && headIs isWord t) = true
      · rw [if_pos hhyphen]
        rw [Bool.and_eq_true, decide_eq_true_eq, headIs_isWord] at hhyphen
        obtain ⟨rfl, hnext⟩ := hhyphen
        refine ⟨fun i hi => ?_, hends⟩
        cases i with
        | zero => exact .inr ⟨rfl, hnext⟩
        | succ i => exact hrun i (Nat.lt_of_succ_lt_succ hi)
      · rw [if_neg hhyphen]
        refine ⟨by simp, by simpa [isWordAt] using hc, fun hhead => ?_⟩
        obtain rfl : c = '-' := by simpa using hhead
        rw [Bool.and_eq_true, decide_eq_true_eq, headIs_isWord, not_and] at hhyphen
        show isWordAt t 0 = false
        simpa using hhyphen rfl

end Text

/-! ## Maximal runs of columns -/

/-- Whether some columns are a maximal run of columns with a property. -/
structure IsMaximal (P : Nat → Prop) (start stop : Nat) : Prop where
  lt : start < stop
  inside : ∀ i, start ≤ i → i < stop → P i
  left : ∀ i, i + 1 = start → ¬P i
  right : ¬P stop

namespace IsMaximal

variable {P : Nat → Prop} {start stop start' stop' i : Nat}

/-- No run with the property that shares a column goes beyond a maximal one. -/
lemma contains (h : IsMaximal P start stop) (h' : IsMaximal P start' stop') (hi : start ≤ i)
    (hlt : i < stop) (hi' : start' ≤ i) (hlt' : i < stop') : start ≤ start' ∧ stop' ≤ stop := by
  constructor
  · by_contra hgt
    exact h.left (start - 1) (by omega) (h'.inside (start - 1) (by omega) (by omega))
  · by_contra hgt
    exact h.right (h'.inside stop (by omega) (by omega))

/-- A column lies in one maximal run only. -/
lemma unique (h : IsMaximal P start stop) (h' : IsMaximal P start' stop') (hi : start ≤ i)
    (hlt : i < stop) (hi' : start' ≤ i) (hlt' : i < stop') : start' = start ∧ stop' = stop := by
  have hwithin := h.contains h' hi hlt hi' hlt'
  have hwithin' := h'.contains h hi' hlt' hi hlt
  omega

/-- A maximal run ends where the next column does not have the property. -/
lemma stop_eq (h : IsMaximal P start stop) (hi : start ≤ i) (hlt : i < stop) (hnext : ¬P (i + 1)) :
    stop = i + 1 := by
  by_contra hne
  exact hnext (h.inside (i + 1) (by omega) (by omega))

/-- A maximal run starts where the column in front does not have the property. -/
lemma start_eq (h : IsMaximal P start stop) (hi : start ≤ i + 1) (hlt : i + 1 < stop)
    (hprevious : ¬P i) : start = i + 1 := by
  by_contra hne
  exact hprevious (h.inside i (by omega) (by omega))

end IsMaximal

namespace Run

open Text (isWordAt isGlyphAt IsJoint InWord InGlyph)

variable {line : Text} {r s : Run} {i : Nat}

/-! ## What tokens consist of -/

/-- Where a column belongs to a word or a glyph, there is a token to be found. -/
lemma tokenAt_drop_ne_nil (h : isWordAt line i = true ∨ isGlyphAt line i = true) :
    tokenAt (line.drop i) ≠ [] := by
  have hhead : isWordAt (line.drop i) 0 = isWordAt line i := by
    rw [Text.isWordAt_drop, Nat.add_zero]
  rw [tokenAt, Text.headIs_isWord, hhead]
  by_cases hword : isWordAt line i = true
  · rw [if_pos hword]
    have hends := (Text.hyphenatedRun_columns (line.drop i)).2.1
    intro hnil
    rw [hnil, List.length_nil, hhead, hword] at hends
    cases hends
  · rw [if_neg hword]
    have hends := (Text.takeWhile_columns isGlyph (line.drop i)).2
    have hglyph := h.resolve_left hword
    intro hnil
    rw [hnil, List.length_nil] at hends
    have hhead' : isGlyphAt (line.drop i) 0 = false := hends
    rw [Text.isGlyphAt_drop, Nat.add_zero, hglyph] at hhead'
    cases hhead'

/-- A token covers each column that belongs to a word or a glyph. -/
lemma exists_covering (h : isWordAt line i = true ∨ isGlyphAt line i = true) :
    ∃ r ∈ all tokenAt line, r.start ≤ i ∧ i < r.stop := by
  have hlt : i < line.length := by
    rcases h with hword | hglyph
    · exact Text.lt_length_of_isWordAt hword
    · by_contra hge
      rw [isGlyphAt, List.getElem?_eq_none (by omega)] at hglyph
      cases hglyph
  exact all_covers hlt (tokenAt_drop_ne_nil h)

/-- What a word consists of as far as it goes, and what ends it. -/
lemma columns_of_word {l : Text} (hr : r ∈ all tokenAt l) (hstart : isWordAt l r.start = true) :
    (∀ i, r.start ≤ i → i < r.stop →
      isWordAt l i = true ∨ l[i]? = some '-' ∧ isWordAt l (i + 1) = true) ∧
      isWordAt l r.stop = false ∧ (l[r.stop]? = some '-' → isWordAt l (r.stop + 1) = false) := by
  have hrun : Text.hyphenatedRun Text.isWord (l.drop r.start) = r.text := by
    have hfind := find_of_mem hr
    rwa [tokenAt, Text.headIs_isWord, Text.isWordAt_drop, Nat.add_zero, if_pos hstart] at hfind
  have hcolumns := Text.hyphenatedRun_columns (l.drop r.start)
  simp only [hrun, Text.isWordAt_drop, List.getElem?_drop] at hcolumns
  obtain ⟨hinside, hends⟩ := hcolumns
  refine ⟨fun i hle hlt => ?_, hends⟩
  rw [stop] at hlt
  have hcolumn := hinside (i - r.start) (by omega)
  rwa [← Nat.add_assoc, Nat.add_sub_cancel' hle] at hcolumn

/-- A token that starts with a word character is a word: all its columns belong to one, and the
column behind it does not. -/
lemma inWord_of_mem (hr : r ∈ all tokenAt line) (hstart : isWordAt line r.start = true) :
    (∀ i, r.start ≤ i → i < r.stop → InWord line i) ∧ ¬InWord line r.stop := by
  obtain ⟨hinside, hstop, hhyphen⟩ := columns_of_word hr hstart
  constructor
  · intro i hle hlt
    refine (hinside i hle hlt).imp_right fun ⟨hi, hnext⟩ => ⟨hi, hnext, ?_⟩
    have hnot := Text.isWordAt_of_hyphen hi
    have hne : i ≠ r.start := by
      rintro rfl
      cases hstart.symm.trans hnot
    -- no other hyphen stands in front of a hyphen, since a word character follows on each
    refine ⟨i - 1, by omega, (hinside (i - 1) (by omega) (by omega)).resolve_right ?_⟩
    rintro ⟨-, hword⟩
    rw [Nat.sub_add_cancel (by omega)] at hword
    cases hword.symm.trans hnot
  · rintro (hword | ⟨hi, hnext, -⟩)
    · cases hword.symm.trans hstop
    · cases hnext.symm.trans (hhyphen hi)

/-- A token that starts with another character consists of glyph characters, and none stands behind
it. -/
lemma isGlyphAt_of_mem (hr : r ∈ all tokenAt line) (hstart : isWordAt line r.start = false) :
    (∀ i, r.start ≤ i → i < r.stop → isGlyphAt line i = true) ∧ isGlyphAt line r.stop = false := by
  have hrun : (line.drop r.start).takeWhile isGlyph = r.text := by
    have hfind := find_of_mem hr
    rwa [tokenAt, Text.headIs_isWord, Text.isWordAt_drop, Nat.add_zero, hstart,
      if_neg Bool.false_ne_true] at hfind
  have hcolumns := Text.takeWhile_columns isGlyph (line.drop r.start)
  simp only [hrun, List.getElem?_drop] at hcolumns
  obtain ⟨hinside, hends⟩ := hcolumns
  refine ⟨fun i hle hlt => ?_, hends⟩
  rw [stop] at hlt
  have hcolumn := hinside (i - r.start) (by omega)
  rwa [Nat.add_sub_cancel' hle] at hcolumn

/-! ## Tokens side by side -/

/-- A token starts where another one ends, if the column in front of it belongs to a word or a
glyph. -/
lemma exists_previous (hr : r ∈ all tokenAt line) (hi : i + 1 = r.start)
    (h : isWordAt line i = true ∨ isGlyphAt line i = true) :
    ∃ s ∈ all tokenAt line, s.start ≤ i ∧ s.stop = r.start := by
  obtain ⟨s, hs, hle, hlt⟩ := exists_covering h
  have hnonempty := start_lt_stop_of_mem hr
  refine ⟨s, hs, hle, ?_⟩
  rcases disjoint_of_mem_all hr hs with rfl | hbefore | hbehind
  · omega
  · omega
  · omega

/-- Behind a word character no token starts with a column that belongs to a word. -/
lemma not_inWord_start (hr : r ∈ all tokenAt line) (hi : i + 1 = r.start)
    (hword : isWordAt line i = true) : ¬InWord line r.start := by
  obtain ⟨s, hs, hle, hstop⟩ := exists_previous hr hi (.inl hword)
  have hstart : isWordAt line s.start = true := by
    by_contra hnot
    rw [Bool.not_eq_true] at hnot
    have hglyph := (isGlyphAt_of_mem hs hnot).1 i hle (by omega)
    rw [Text.isGlyphAt_of_isWordAt hword] at hglyph
    cases hglyph
  rw [← hstop]
  exact (inWord_of_mem hs hstart).2

/-- No column of a token of glyph characters belongs to a word. -/
lemma not_inWord_of_glyph (hr : r ∈ all tokenAt line) (hstart : isWordAt line r.start = false)
    (hle : r.start ≤ i) (hlt : i < r.stop) : ¬InWord line i := by
  have hglyph := (isGlyphAt_of_mem hr hstart).1
  have hnot : ∀ j, r.start ≤ j → j < r.stop → isWordAt line j = false := by
    intro j hj hj'
    by_contra hword
    rw [Bool.not_eq_false] at hword
    have hcolumn := hglyph j hj hj'
    rw [Text.isGlyphAt_of_isWordAt hword] at hcolumn
    cases hcolumn
  rintro (hword | ⟨hhyphen, hnext, j, rfl, hj⟩)
  · cases hword.symm.trans (hnot i hle hlt)
  · -- the word character in front of the hyphen does not belong to the token, which starts here
    have hbefore : ¬r.start ≤ j := by
      intro hwithin
      cases hj.symm.trans (hnot j hwithin (by omega))
    have hfirst : j + 1 = r.start := by omega
    apply not_inWord_start hr hfirst hj
    rw [← hfirst]
    exact .inr ⟨hhyphen, hnext, j, rfl, hj⟩

/-- A token that starts with a word character is a maximal run of columns of words. -/
lemma isMaximal_word (hr : r ∈ all tokenAt line) (hstart : isWordAt line r.start = true) :
    IsMaximal (InWord line) r.start r.stop := by
  obtain ⟨hinside, hright⟩ := inWord_of_mem hr hstart
  refine ⟨start_lt_stop_of_mem hr, hinside, fun i hi hword => ?_, hright⟩
  rcases hword with hword | hjoint
  · exact not_inWord_start hr hi hword (.inl hstart)
  · obtain ⟨s, hs, hle, hstop⟩ := exists_previous hr hi (.inr (Text.isGlyphAt_of_isJoint hjoint))
    cases hkind : isWordAt line s.start with
    | true =>
      have hnot := (inWord_of_mem hs hkind).2
      rw [hstop] at hnot
      exact hnot (.inl hstart)
    | false => exact not_inWord_of_glyph hs hkind hle (by omega) (.inr hjoint)

/-- A token that starts with another character is a maximal run of columns of glyphs. -/
lemma isMaximal_glyph (hr : r ∈ all tokenAt line) (hstart : isWordAt line r.start = false) :
    IsMaximal (InGlyph line) r.start r.stop := by
  obtain ⟨hinside, hright⟩ := isGlyphAt_of_mem hr hstart
  have hlt := start_lt_stop_of_mem hr
  refine ⟨hlt, fun i hi hi' => ⟨hinside i hi hi', not_inWord_of_glyph hr hstart hi hi'⟩,
    fun i hi hglyph => ?_, fun hglyph => ?_⟩
  · obtain ⟨s, hs, hle, hstop⟩ := exists_previous hr hi (.inr hglyph.1)
    cases hkind : isWordAt line s.start with
    | true => exact hglyph.2 ((inWord_of_mem hs hkind).1 i hle (by omega))
    | false =>
      have hends := (isGlyphAt_of_mem hs hkind).2
      rw [hstop, hinside r.start (Nat.le_refl _) hlt] at hends
      cases hends
  · cases hglyph.1.symm.trans hright

/-- A token is a maximal run of columns of one kind. -/
lemma isMaximal_of_mem (hr : r ∈ all tokenAt line) :
    IsMaximal (InWord line) r.start r.stop ∨ IsMaximal (InGlyph line) r.start r.stop := by
  cases hkind : isWordAt line r.start with
  | true => exact .inl (isMaximal_word hr hkind)
  | false => exact .inr (isMaximal_glyph hr hkind)

/-- The token that covers a column of a word. -/
lemma exists_word_covering (h : InWord line i) : ∃ r ∈ all tokenAt line,
    r.start ≤ i ∧ i < r.stop ∧ IsMaximal (InWord line) r.start r.stop := by
  obtain ⟨r, hr, hle, hlt⟩ := exists_covering (h.imp_right Text.isGlyphAt_of_isJoint)
  refine ⟨r, hr, hle, hlt, (isMaximal_of_mem hr).resolve_right fun hglyph => ?_⟩
  exact (hglyph.inside i hle hlt).2 h

/-- The token that covers a column of a glyph. -/
lemma exists_glyph_covering (h : InGlyph line i) : ∃ r ∈ all tokenAt line,
    r.start ≤ i ∧ i < r.stop ∧ IsMaximal (InGlyph line) r.start r.stop := by
  obtain ⟨r, hr, hle, hlt⟩ := exists_covering (.inr h.1)
  refine ⟨r, hr, hle, hlt, (isMaximal_of_mem hr).resolve_left fun hword => ?_⟩
  exact h.2 (hword.inside i hle hlt)

lemma tokenAt_isPrefix (t : Text) : tokenAt t <+: t := by
  rw [tokenAt]
  split
  · exact Lexer.hyphenatedRun_isPrefix _ t
  · exact List.takeWhile_prefix _

/-- **The tokens of a line.** They are the maximal runs of columns that belong to words, and the
maximal runs of columns that belong to glyphs. -/
theorem mem_all_tokenAt_iff : r ∈ all tokenAt line ↔
    (IsMaximal (InWord line) r.start r.stop ∨ IsMaximal (InGlyph line) r.start r.stop) ∧
      r.text = (line.drop r.start).take r.text.length := by
  have htext : ∀ s ∈ all tokenAt line, s.text = (line.drop s.start).take s.text.length := by
    intro s hs
    have hfind := find_of_mem hs
    have hprefix := tokenAt_isPrefix (line.drop s.start)
    rw [hfind] at hprefix
    exact List.prefix_iff_eq_take.1 hprefix
  constructor
  · intro hr
    exact ⟨isMaximal_of_mem hr, htext r hr⟩
  · rintro ⟨hmaximal, hslice⟩
    have hsame : ∀ s ∈ all tokenAt line, s.start = r.start → s.stop = r.stop → r = s := by
      intro s hs hstart hstop
      have hlength : s.text.length = r.text.length := by
        rw [stop, stop] at hstop
        omega
      have heq : r.text = s.text := by rw [hslice, htext s hs, hstart, hlength]
      show Run.mk r.start r.text = s
      rw [← hstart, heq]
    rcases hmaximal with hword | hglyph
    · obtain ⟨s, hs, hle, hlt, hmaximal⟩ :=
        exists_word_covering (hword.inside r.start (Nat.le_refl _) hword.lt)
      obtain ⟨hstart, hstop⟩ := hword.unique hmaximal (Nat.le_refl _) hword.lt hle hlt
      rwa [hsame s hs hstart hstop]
    · obtain ⟨s, hs, hle, hlt, hmaximal⟩ :=
        exists_glyph_covering (hglyph.inside r.start (Nat.le_refl _) hglyph.lt)
      obtain ⟨hstart, hstop⟩ := hglyph.unique hmaximal (Nat.le_refl _) hglyph.lt hle hlt
      rwa [hsame s hs hstart hstop]

/-- Whether one token of a line ends at a column, and another one starts there. -/
def Meet (line : Text) (c : Nat) : Prop :=
  ∃ r ∈ all tokenAt line, ∃ s ∈ all tokenAt line, r.stop = c ∧ s.start = c

/-- Tokens meet where a column of one kind follows on a column of the other kind. -/
theorem meet_iff {c : Nat} : Meet line c ↔ ∃ i, i + 1 = c ∧
    (InWord line i ∧ InGlyph line c ∨ InGlyph line i ∧ InWord line c) := by
  constructor
  · rintro ⟨r, hr, s, hs, rfl, hstart⟩
    have hlt := start_lt_stop_of_mem hr
    have hlt' := start_lt_stop_of_mem hs
    refine ⟨r.stop - 1, by omega, ?_⟩
    rcases isMaximal_of_mem hr with hword | hglyph
    · have hlast := hword.inside (r.stop - 1) (by omega) (by omega)
      refine .inl ⟨hlast, ?_⟩
      have hmaximal := (isMaximal_of_mem hs).resolve_left fun hother =>
        hword.right (hother.inside r.stop (by omega) (by omega))
      exact hmaximal.inside r.stop (by omega) (by omega)
    · have hlast := hglyph.inside (r.stop - 1) (by omega) (by omega)
      refine .inr ⟨hlast, ?_⟩
      have hmaximal := (isMaximal_of_mem hs).resolve_right fun hother =>
        hglyph.right (hother.inside r.stop (by omega) (by omega))
      exact hmaximal.inside r.stop (by omega) (by omega)
  · rintro ⟨i, rfl, ⟨hword, hglyph⟩ | ⟨hglyph, hword⟩⟩
    · obtain ⟨r, hr, hle, hlt, hmaximal⟩ := exists_word_covering hword
      obtain ⟨s, hs, hle', hlt', hmaximal'⟩ := exists_glyph_covering hglyph
      exact ⟨r, hr, s, hs, hmaximal.stop_eq hle hlt hglyph.2,
        hmaximal'.start_eq hle' hlt' fun h => h.2 hword⟩
    · obtain ⟨r, hr, hle, hlt, hmaximal⟩ := exists_glyph_covering hglyph
      obtain ⟨s, hs, hle', hlt', hmaximal'⟩ := exists_word_covering hword
      exact ⟨r, hr, s, hs, hmaximal.stop_eq hle hlt fun h => h.2 hword,
        hmaximal'.start_eq hle' hlt' hglyph.2⟩

end Run

end Mermaid
