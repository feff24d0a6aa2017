import Mermaid.Text.Blank
import Mathlib.Tactic.Common
import Mathlib.Data.List.DropRight
import Mathlib.Data.List.GetD
import Mathlib.Data.List.TakeWhile

/-!
# Lines and the blanks around them

A text is its trimmed form with blanks in front of it and behind it; what trims to the same text
differs in these blanks alone. Lines that are put together and cut again are the same lines.
-/

namespace Mermaid.Text

/-! ## Blanks at the ends -/

@[simp] lemma isBlankText_nil : isBlankText [] = true := rfl

@[simp] lemma isBlankText_cons (c : Char) (t : Text) :
    isBlankText (c :: t) = (isBlank c && isBlankText t) := List.all_cons

@[simp] lemma isBlankText_append (t u : Text) :
    isBlankText (t ++ u) = (isBlankText t && isBlankText u) := List.all_append

@[simp] lemma isBlankText_reverse (t : Text) : isBlankText t.reverse = isBlankText t :=
  List.all_reverse

/-- Blanks in front of a text are dropped together with its own. -/
lemma dropWhile_append_of_isBlankText {t : Text} (h : isBlankText t = true) (u : Text) :
    (t ++ u).dropWhile isBlank = u.dropWhile isBlank :=
  List.dropWhile_append_of_pos (List.all_eq_true.1 h)

/-- A text is its leading blanks and the rest. -/
lemma eq_append_trimStart (t : Text) :
    ∃ front, t = front ++ trimStart t ∧ isBlankText front = true ∧ front.length = margin t :=
  ⟨t.takeWhile isBlank, (List.takeWhile_append_dropWhile).symm, List.all_takeWhile, rfl⟩

/-- A text is the rest and its trailing blanks. -/
lemma eq_trimEnd_append (t : Text) :
    ∃ back, t = trimEnd t ++ back ∧ isBlankText back = true := by
  refine ⟨(t.reverse.takeWhile isBlank).reverse, ?_, ?_⟩
  · rw [trimEnd, ← List.reverse_append, List.takeWhile_append_dropWhile, List.reverse_reverse]
  · rw [isBlankText_reverse]
    exact List.all_takeWhile

/-- A text is its trimmed form between blanks; the ones in front of it are its margin. -/
theorem eq_append_trim_append (t : Text) :
    ∃ front back, t = front ++ (trim t ++ back) ∧ front.length = margin t ∧
      isBlankText front = true ∧ isBlankText back = true := by
  obtain ⟨front, hfront, hblank, hmargin⟩ := eq_append_trimStart t
  obtain ⟨back, hback, hblank'⟩ := eq_trimEnd_append (trimStart t)
  refine ⟨front, back, ?_, hmargin, hblank, hblank'⟩
  rw [trim, ← hback, ← hfront]

/-- A trimmed text has no other characters than the text. -/
lemma not_mem_trim {t : Text} {c : Char} (h : c ∉ t) : c ∉ trim t := by
  obtain ⟨front, back, ht, -⟩ := eq_append_trim_append t
  intro hmem
  rw [ht] at h
  exact h (List.mem_append_right front (List.mem_append_left back hmem))

/-- Blanks in front of a text do not change its trimmed form. -/
lemma trim_append_left {front : Text} (h : isBlankText front = true) (t : Text) :
    trim (front ++ t) = trim t := by
  rw [trim, trimStart, dropWhile_append_of_isBlankText h, ← trimStart, ← trim]

/-- Blanks behind a text do not change its trimmed form. -/
lemma trim_append_right (t : Text) {back : Text} (h : isBlankText back = true) :
    trim (t ++ back) = trim t := by
  have hend : ∀ u : Text, trimEnd (u ++ back) = trimEnd u := by
    intro u
    rw [trimEnd, List.reverse_append, dropWhile_append_of_isBlankText (by simpa using h), trimEnd]
  have hnil : back.dropWhile isBlank = [] := List.dropWhile_eq_nil_iff.2 (List.all_eq_true.1 h)
  rw [trim, trim, trimStart, trimStart, List.dropWhile_append]
  split
  · next hempty => rw [hnil, List.isEmpty_iff.1 hempty]
  · exact hend _

/-- Trimming a trimmed text changes nothing. -/
@[simp] theorem trim_trim (t : Text) : trim (trim t) = trim t := by
  obtain ⟨front, back, ht, -, hfront, hback⟩ := eq_append_trim_append t
  conv_rhs => rw [ht, trim_append_left hfront, trim_append_right _ hback]

/-- A trimmed text has no trailing blanks. -/
@[simp] lemma trimEnd_trim (t : Text) : trimEnd (trim t) = trim t := by
  rw [trim, trimEnd, trimEnd, List.reverse_reverse, List.dropWhile_idempotent]

/-- The end of a text is trimmed with anything in front of it, if something is left of it. -/
lemma trimEnd_append_of_ne_nil (t : Text) {u : Text} (h : trimEnd u ≠ []) :
    trimEnd (t ++ u) = t ++ trimEnd u := by
  rw [trimEnd, Ne, List.reverse_eq_nil_iff] at h
  rw [trimEnd, List.reverse_append, List.dropWhile_append, if_neg (by simpa using h),
    List.reverse_append, List.reverse_reverse, trimEnd]

/-- A trimmed text starts with a character that is not blank. -/
lemma isBlank_of_trim_eq_cons {t u : Text} {c : Char} (h : trim t = c :: u) :
    isBlank c = false := by
  obtain ⟨back, hback, -⟩ := eq_trimEnd_append (trimStart t)
  have hhead : (trimStart t).head? = some c := by
    rw [hback, ← trim, h]
    rfl
  have hnot := List.head?_dropWhile_not isBlank t
  rw [← trimStart, hhead] at hnot
  simpa using hnot

/-- A text is trimmed if it neither starts nor ends with a blank. -/
lemma trim_eq_self_iff {t : Text} : trim t = t ↔
    (∀ c ∈ t.head?, isBlank c = false) ∧ ∀ c ∈ t.getLast?, isBlank c = false := by
  have hend : trimEnd t = t ↔ ∀ c ∈ t.getLast?, isBlank c = false := by
    rw [trimEnd, List.reverse_eq_iff, List.dropWhile_eq_self_iff, ← List.head?_reverse]
    cases t.reverse <;> simp
  rw [← hend]
  constructor
  · intro h
    refine ⟨?_, by rw [← h, trimEnd_trim]⟩
    intro c hc
    obtain ⟨u, hu⟩ := List.head?_eq_some_iff.1 hc
    exact isBlank_of_trim_eq_cons (h.trans hu)
  · rintro ⟨hfront, hback⟩
    have hstart : trimStart t = t := by
      rw [trimStart, List.dropWhile_eq_self_iff]
      cases t <;> simp_all
    rw [trim, hstart, hback]

/-- A trimmed text has no margin. -/
@[simp] theorem margin_trim (t : Text) : margin (trim t) = 0 := by
  cases h : trim t with
  | nil => rfl
  | cons c u => simp [margin, isBlank_of_trim_eq_cons h]

/-! ## The first word -/

/-- The first word of a text stands between its leading blanks and the next blank. -/
lemma headD_words (t : Text) :
    (words t).headD [] = (t.dropWhile isBlank).takeWhile fun c => !isBlank c := by
  induction t with
  | nil => rfl
  | cons c cs ih =>
    cases hc : isBlank c with
    | true => simpa [words, hc] using ih
    | false =>
      rw [List.dropWhile_cons_of_neg (by simp [hc]), List.takeWhile_cons_of_pos (by simp [hc])]
      cases cs with
      | nil => simp [words, hc]
      | cons d ds =>
        cases hd : isBlank d with
        | true => simp [words, hc, hd]
        | false =>
          rw [List.dropWhile_cons_of_neg (by simp [hd])] at ih
          rw [← ih, words]
          simp only [hc, hd, Bool.false_eq_true, if_false]
          cases words (d :: ds) <;> rfl

/-- Blanks around a text do not change its first word. -/
lemma headD_words_append {front back : Text} (hfront : isBlankText front = true)
    (hback : isBlankText back = true) (t : Text) :
    (words (front ++ (t ++ back))).headD [] = (words t).headD [] := by
  have hnil : back.dropWhile isBlank = [] := List.dropWhile_eq_nil_iff.2 (List.all_eq_true.1 hback)
  have htake : back.takeWhile (fun c => !isBlank c) = [] := by
    cases back with
    | nil => rfl
    | cons b bs => simp_all
  rw [headD_words, headD_words, dropWhile_append_of_isBlankText hfront, List.dropWhile_append]
  -- the word ends inside the text, or at the first of the blanks behind it
  split
  · next hempty => rw [List.isEmpty_iff.1 hempty, hnil]
  · rw [List.takeWhile_append, htake, List.append_nil]
    split
    · next hall => rw [(List.takeWhile_prefix _).eq_of_length hall]
    · rfl

/-! ## Lines -/

/-- A line has no line feed. -/
lemma not_mem_of_mem_lines {t l : Text} (h : l ∈ lines t) : '\n' ∉ l := by
  induction t generalizing l with
  | nil => simp_all [lines]
  | cons c cs ih =>
    rw [lines] at h
    split at h
    · rcases List.mem_cons.1 h with rfl | hmem
      · simp
      · exact ih hmem
    · next hc =>
      cases hl : lines cs with
      | nil => exact absurd hl (lines_ne_nil cs)
      | cons m ms =>
        -- the character goes to the front of the first line below
        rw [hl] at ih h
        rcases List.mem_cons.1 h with rfl | hmem
        · have hm := ih List.mem_cons_self
          simp [hm, Ne.symm hc]
        · exact ih (List.mem_cons_of_mem m hmem)

/-- There is one line more than line feeds. -/
lemma length_lines (t : Text) : (lines t).length = t.count '\n' + 1 := by
  induction t with
  | nil => rfl
  | cons c cs ih =>
    rw [lines]
    split
    · next hc => simp [hc, ih]
    · next hc =>
      rw [List.count_cons_of_ne hc]
      cases hl : lines cs with
      | nil => exact absurd hl (lines_ne_nil cs)
      | cons m ms =>
        rw [hl] at ih
        exact ih

/-- A line feed ends the first line. -/
lemma lines_append_newline {l : Text} (h : '\n' ∉ l) (t : Text) :
    lines (l ++ '\n' :: t) = l :: lines t := by
  induction l with
  | nil => simp [lines]
  | cons c cs ih =>
    rw [List.mem_cons, not_or] at h
    rw [List.cons_append, lines, if_neg (Ne.symm h.1), ih h.2]

/-- A text without line feeds is one line. -/
lemma lines_of_not_mem {l : Text} (h : '\n' ∉ l) : lines l = [l] := by
  induction l with
  | nil => rfl
  | cons c cs ih =>
    rw [List.mem_cons, not_or] at h
    rw [lines, if_neg (Ne.symm h.1), ih h.2]

/-- Lines that are put together are cut into the same lines again. -/
theorem lines_joinLines {ls : List Text} (hne : ls ≠ []) (h : ∀ l ∈ ls, '\n' ∉ l) :
    lines (joinLines ls) = ls := by
  induction ls with
  | nil => exact absurd rfl hne
  | cons l ls ih =>
    have hl := h l List.mem_cons_self
    cases ls with
    | nil => exact lines_of_not_mem hl
    | cons m ms =>
      rw [joinLines, lines_append_newline hl,
        ih (List.cons_ne_nil m ms) fun l' hl' => h l' (List.mem_cons_of_mem l hl')]

/-- Other characters than line feeds stand in the lines. -/
lemma mem_joinLines_iff {c : Char} (hc : c ≠ '\n') (ls : List Text) :
    c ∈ joinLines ls ↔ ∃ l ∈ ls, c ∈ l := by
  induction ls with
  | nil => simp [joinLines]
  | cons l ls ih =>
    cases ls with
    | nil => simp [joinLines]
    | cons m ms =>
      rw [joinLines, List.mem_append, List.mem_cons, ih, or_iff_right hc]
      simp

lemma mem_of_mem_lines {t l : Text} {c : Char} (hl : l ∈ lines t) (hc : c ∈ l) : c ∈ t := by
  have hfeed : c ≠ '\n' := fun h => not_mem_of_mem_lines hl (h ▸ hc)
  rw [← joinLines_lines t]
  exact (mem_joinLines_iff hfeed _).2 ⟨l, hl, hc⟩

/-- The line of a text with a number from 1; it is empty where there is none. -/
def lineAt (t : Text) (number : Nat) : Text := (lines t).getD (number - 1) []

lemma trim_lineAt (t : Text) (number : Nat) :
    trim (lineAt t number) = ((lines t).map trim).getD (number - 1) [] := by
  rw [lineAt, List.getD_eq_getElem?_getD, List.getD_eq_getElem?_getD, List.getElem?_map]
  cases (lines t)[number - 1]? <;> rfl

/-- A line between other lines has the number of those above it and one more. -/
lemma lineAt_of_split {t raw : Text} {above below : List Text}
    (ht : lines t = above ++ raw :: below) : lineAt t (above.length + 1) = raw := by
  rw [lineAt, ht, Nat.add_sub_cancel, List.getD_eq_getElem?_getD,
    List.getElem?_append_right (Nat.le_refl _), Nat.sub_self]
  rfl

/-- A line that is not blank stands between other lines. -/
lemma exists_split_of_lineAt {t : Text} {n : Nat} (hn : 1 ≤ n) (h : trim (lineAt t n) ≠ []) :
    ∃ above below, lines t = above ++ lineAt t n :: below ∧ n = above.length + 1 := by
  have hlt : n - 1 < (lines t).length := by
    by_contra hge
    rw [lineAt, List.getD_eq_default _ _ (Nat.le_of_not_lt hge)] at h
    exact h rfl
  refine ⟨(lines t).take (n - 1), (lines t).drop (n - 1 + 1), ?_, ?_⟩
  · rw [lineAt, List.getD_eq_getElem _ _ hlt, ← List.drop_eq_getElem_cons hlt,
      List.take_append_drop]
  · rw [List.length_take, Nat.min_eq_left (Nat.le_of_lt hlt)]
    omega

/-! ## Carriage returns -/

/-- No carriage return is left of a text. -/
lemma not_mem_unifyNewlines (t : Text) : '\r' ∉ unifyNewlines t := by
  fun_induction unifyNewlines t with
  | case1 => simp
  | case2 cs ih => simpa using ih
  | case3 c cs _ ih =>
    rw [List.mem_cons, not_or]
    refine ⟨?_, ih⟩
    split
    · decide
    · next hc => exact Ne.symm hc

/-- A text without carriage returns stays as it is. -/
lemma unifyNewlines_of_not_mem {t : Text} (h : '\r' ∉ t) : unifyNewlines t = t := by
  fun_induction unifyNewlines t with
  | case1 => rfl
  | case2 cs ih => simp at h
  | case3 c cs _ ih =>
    rw [List.mem_cons, not_or] at h
    rw [if_neg (Ne.symm h.1), ih h.2]

end Mermaid.Text
