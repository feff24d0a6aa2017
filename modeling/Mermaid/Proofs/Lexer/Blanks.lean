import Mermaid.Lexer
import Mermaid.Proofs.Text.Lines

/-!
# Blanks around a line

Blanks in front of a line, or behind it, leave its words, its delimiters and its quotes as they are;
the ones in front move them to the right. All that changes besides are tokens that are read for
nothing but whether they are blank.
-/

namespace Mermaid

/-- The token with its start moved to the right. -/
def Token.moved (t : Token) (shift : Nat) : Token := { t with start := t.start + shift }

@[simp] lemma Token.moved_isWord (t : Token) (j : Nat) : (t.moved j).isWord = t.isWord := rfl
@[simp] lemma Token.moved_text (t : Token) (j : Nat) : (t.moved j).text = t.text := rfl
@[simp] lemma Token.moved_start (t : Token) (j : Nat) : (t.moved j).start = t.start + j := rfl

/-- Whether a token is neither a word nor a delimiter nor a quote. -/
structure Token.IsLoose (t : Token) : Prop where
  kind : t.kind = .comment ∨ t.kind = .text ∨ t.kind = .string
  text : t.text ≠ ['"']

namespace Lexer

open Text (isBlank isBlankText)

/-- Whether tokens are the same with the start of each moved to the right, loose ones apart: only
whether they are blank is the same, and a blank one may stand at the end. -/
inductive Realigned (j : Nat) : List Token → List Token → Prop
  | nil : Realigned j [] []
  | blank {b : Token} (hb : b.IsLoose) (hblank : isBlankText b.text = true) : Realigned j [] [b]
  | moved (t : Token) {ts us : List Token} (h : Realigned j ts us) :
    Realigned j (t :: ts) (t.moved j :: us)
  | loose {t u : Token} (ht : t.IsLoose) (hu : u.IsLoose)
    (hblank : isBlankText u.text = isBlankText t.text) {ts us : List Token}
    (h : Realigned j ts us) : Realigned j (t :: ts) (u :: us)

/-- Whether tokens are realigned ones, or realigned ones behind a blank. -/
inductive Framed (j : Nat) : List Token → List Token → Prop
  | flush {ts us : List Token} (h : Realigned j ts us) : Framed j ts us
  | indented {b : Token} (hb : b.IsLoose) (hblank : isBlankText b.text = true)
    {ts us : List Token} (h : Realigned j ts us) : Framed j ts (b :: us)

/-! ## Pieces -/

lemma piece_of_lexeme? (mode : Mode) {u : Text} {l : Lexeme} (h : lexeme? mode u = some l) :
    piece mode u = l := by
  rw [piece, h]

lemma piece_of_no_lexeme? (mode : Mode) {u : Text} (h : lexeme? mode u = none) :
    piece mode u = ⟨.text, unmatched mode u, mode⟩ := by
  rw [piece, h]

/-- Inside a string some rule applies everywhere, and only a quote ends the string. -/
lemma exists_stringLexeme? {u : Text} (hu : u ≠ []) :
    ∃ l, stringLexeme? u = some l ∧ l.kind = .string ∧ (l.next = .string ∨ l.text = ['"']) := by
  obtain ⟨c, cs, rfl⟩ := List.exists_cons_of_ne_nil hu
  unfold stringLexeme?
  split
  · next heq => cases heq
  · exact ⟨_, rfl, rfl, .inr rfl⟩
  · exact ⟨_, rfl, rfl, .inl rfl⟩
  · exact ⟨_, rfl, rfl, .inl rfl⟩

/-- The tokens of a line that is not empty: its first piece, and those of what is left. -/
lemma classifyFrom_of_ne_nil (column : Nat) (mode : Mode) {u : Text} (hu : u ≠ []) :
    classifyFrom column mode u =
      (⟨column, (piece mode u).text, (piece mode u).kind⟩ ::
        (classifyFrom (column + (piece mode u).text.length) (piece mode u).next
          (u.drop (piece mode u).text.length)).1,
      (classifyFrom (column + (piece mode u).text.length) (piece mode u).next
        (u.drop (piece mode u).text.length)).2) := by
  obtain ⟨c, cs, rfl⟩ := List.exists_cons_of_ne_nil hu
  rw [classifyFrom]

/-! ## Rules at a blank -/

/-- What holds of all blank code points holds of every blank. -/
lemma of_isBlank {p : Char → Prop} (h : ∀ n ∈ Text.blankCodePoints, p (Char.ofNat n)) {c : Char}
    (hc : isBlank c = true) : p c := by
  have hmem : c.toNat ∈ Text.blankCodePoints := List.contains_iff_mem.1 hc
  simpa using h _ hmem

/-- A blank is not the same as any character that is not blank. -/
lemma ne_of_isBlank {c : Char} (hc : isBlank c = true) (d : Char) (hd : isBlank d = false) :
    c ≠ d := by
  intro heq
  rw [heq, hd] at hc
  cases hc

/-- No word goes on with a blank. -/
lemma isWordPart_of_isBlank {c : Char} (hc : isBlank c = true) : isWordPart c = false :=
  of_isBlank (p := fun c => isWordPart c = false) (by decide +kernel) hc

/-- A blank is neither a quote nor a backslash. -/
lemma isPlain_of_isBlank {c : Char} (hc : isBlank c = true) : isPlain c = true :=
  of_isBlank (p := fun c => isPlain c = true) (by decide) hc

/-- A line without line feeds is a comment as a whole, or has none at its head. -/
lemma comment_eq {u : Text} (h : '\n' ∉ u) :
    comment u = if ['%', '%'].isPrefixOf u then u else [] := by
  unfold comment
  split
  · next rest =>
    have hrest : rest.takeWhile (· ≠ '\n') = rest := by
      rw [List.takeWhile_eq_self_iff]
      intro c hc
      have hne : c ≠ '\n' := by
        intro heq
        rw [heq] at hc
        exact h (by simp [hc])
      simpa using hne
    rw [hrest]
    simp
  · next hne =>
    rw [if_neg]
    intro hcommented
    obtain ⟨rest, hrest⟩ := List.isPrefixOf_iff_prefix.1 hcommented
    exact hne rest hrest.symm

/-- The delimiters are pairs of dashes of one kind, and single characters. -/
lemma delimiter_cons (c : Char) (cs : Text) :
    delimiter (c :: cs) =
      if c = '-' ∧ cs.head? = some '-' then ['-', '-']
      else if c = '=' ∧ cs.head? = some '=' then ['=', '=']
      else if ['[', ']', '(', ')', '\x7b', '\x7d', '>', ':'].contains c then [c] else [] := by
  unfold delimiter
  split
  · simp_all
  · simp_all
  · next c' cs' h₁ h₂ heq =>
    cases heq
    have hdash : ¬(c = '-' ∧ cs.head? = some '-') := by
      intro hpair
      obtain ⟨rest, hcs⟩ := List.head?_eq_some_iff.1 hpair.2
      exact h₁ rest hpair.1 hcs
    have hequal : ¬(c = '=' ∧ cs.head? = some '=') := by
      intro hpair
      obtain ⟨rest, hcs⟩ := List.head?_eq_some_iff.1 hpair.2
      exact h₂ rest hpair.1 hcs
    rw [if_neg hdash, if_neg hequal]
  · next heq => cases heq

/-- Outside strings no rule applies to a blank. -/
lemma rootLexeme?_of_isBlank {c : Char} (hc : isBlank c = true) (cs : Text) :
    rootLexeme? (c :: cs) = none := by
  have hne := ne_of_isBlank hc
  have hcomment : comment (c :: cs) = [] := by
    unfold comment
    split
    · next heq => exact absurd (List.cons.inj heq).1 (hne _ (by decide))
    · rfl
  have hdelimiter : delimiter (c :: cs) = [] := by
    have hlist : ['[', ']', '(', ')', '\x7b', '\x7d', '>', ':'].contains c = false :=
      of_isBlank (p := fun c => List.contains _ c = false) (by decide) hc
    rw [delimiter_cons, hlist, if_neg (fun h => hne _ (by decide) h.1),
      if_neg (fun h => hne _ (by decide) h.1), if_neg (by simp)]
  have hword : word (c :: cs) = [] := by
    have hstart : isWordStart c = false :=
      of_isBlank (p := fun c => isWordStart c = false) (by decide) hc
    rw [word, hstart, if_neg (by simp)]
  unfold rootLexeme?
  simp only [hcomment, hdelimiter, hword]
  split
  · next heq => exact absurd (List.cons.inj heq).1 (hne _ (by decide))
  · rfl

/-! ## Blanks behind a line -/

/-- A run of words is not longer with blanks behind it. -/
lemma hyphenatedRun_append (u : Text) {back : Text} (hback : isBlankText back = true) :
    Text.hyphenatedRun isWordPart (u ++ back) = Text.hyphenatedRun isWordPart u := by
  have hhead : ∀ u, Text.headIs isWordPart (u ++ back) = Text.headIs isWordPart u := by
    intro u
    cases u with
    | cons c cs => rfl
    | nil =>
      cases back with
      | nil => rfl
      | cons b bs => exact isWordPart_of_isBlank (by simp_all)
  induction u with
  | nil =>
    cases back with
    | nil => rfl
    | cons b bs =>
      have hb : isBlank b = true := by simp_all
      have hdash : b ≠ '-' := ne_of_isBlank hb _ (by decide)
      simp [Text.hyphenatedRun, isWordPart_of_isBlank hb, hdash]
  | cons c cs ih => rw [List.cons_append, Text.hyphenatedRun, Text.hyphenatedRun, ih, hhead]

/-- A character that is not blank is at the head of a text with blanks behind it only if it is at
the head of the text. -/
lemma head?_append_of_isBlankText {back : Text} (hback : isBlankText back = true) {d : Char}
    (hd : isBlank d = false) (cs : Text) : (cs ++ back).head? = some d ↔ cs.head? = some d := by
  cases cs with
  | cons e es => rfl
  | nil =>
    cases back with
    | nil => rfl
    | cons b bs =>
      have hb : b ≠ d := ne_of_isBlank (by simp_all) d hd
      simp [hb]

/-- Blanks behind a line do not change the delimiter at its head. -/
lemma delimiter_append {u back : Text} (hu : u ≠ []) (hback : isBlankText back = true) :
    delimiter (u ++ back) = delimiter u := by
  obtain ⟨c, cs, rfl⟩ := List.exists_cons_of_ne_nil hu
  have hdash := head?_append_of_isBlankText hback (show isBlank '-' = false by decide) cs
  have hequal := head?_append_of_isBlankText hback (show isBlank '=' = false by decide) cs
  rw [List.cons_append, delimiter_cons, delimiter_cons]
  simp only [hdash, hequal]

/-- Blanks behind a line do not change the word at its head. -/
lemma word_append {u back : Text} (hu : u ≠ []) (hback : isBlankText back = true) :
    word (u ++ back) = word u := by
  obtain ⟨c, cs, rfl⟩ := List.exists_cons_of_ne_nil hu
  rw [List.cons_append, word, word, hyphenatedRun_append cs hback]

/-- Blanks behind a line do not make it a comment. -/
lemma isPrefixOf_append_iff {u back : Text} (hu : u ≠ []) (hback : isBlankText back = true) :
    ['%', '%'].isPrefixOf (u ++ back) = true ↔ ['%', '%'].isPrefixOf u = true := by
  obtain ⟨c, cs, rfl⟩ := List.exists_cons_of_ne_nil hu
  have hpercent : ∀ l : Text, ['%', '%'].isPrefixOf (c :: l) = true ↔
      c = '%' ∧ l.head? = some '%' := by
    intro l
    cases l <;> simp [eq_comm (a := '%')]
  have hhead := head?_append_of_isBlankText hback (show isBlank '%' = false by decide) cs
  rw [List.cons_append, hpercent, hpercent, hhead]

/-- What a rule outside strings takes from a line, it takes with blanks behind it too; a comment
takes the blanks as well. -/
lemma rootLexeme?_append {u back : Text} (hu : u ≠ []) (hback : isBlankText back = true)
    (hline : '\n' ∉ u ++ back) :
    rootLexeme? (u ++ back) = rootLexeme? u ∨
      ['%', '%'].isPrefixOf u = true ∧ rootLexeme? u = some ⟨.comment, u, .root⟩ ∧
        rootLexeme? (u ++ back) = some ⟨.comment, u ++ back, .root⟩ := by
  have hdelimiter := delimiter_append hu hback
  have hword := word_append hu hback
  have hcommented := isPrefixOf_append_iff hu hback
  have hcomment := comment_eq hline
  have hcomment' := comment_eq (u := u) fun h => hline (List.mem_append_left back h)
  obtain ⟨c, cs, rfl⟩ := List.exists_cons_of_ne_nil hu
  rw [List.cons_append] at hcomment hdelimiter hword hcommented ⊢
  -- a comment goes before all other rules, and it alone depends on what is behind the line
  by_cases h : ['%', '%'].isPrefixOf (c :: cs) = true
  · rw [if_pos (hcommented.2 h)] at hcomment
    rw [if_pos h] at hcomment'
    right
    refine ⟨h, ?_, ?_⟩ <;> simp only [rootLexeme?, hcomment, hcomment']
  · rw [if_neg (mt hcommented.1 h)] at hcomment
    rw [if_neg h] at hcomment'
    left
    simp only [rootLexeme?, hcomment, hcomment', hdelimiter, hword]
    by_cases hquote : c = '"'
    · rw [hquote]
      cases delimiter ('"' :: cs) <;> rfl
    · split
      · rfl
      · split <;> split <;> simp_all

/-- What a rule inside a string takes from a line, it takes with blanks behind it too; a run of
plain characters that reaches the end of the line takes the blanks as well. -/
lemma stringLexeme?_append {u back : Text} (hu : u ≠ []) (hback : isBlankText back = true) :
    stringLexeme? (u ++ back) = stringLexeme? u ∨
      u ≠ ['"'] ∧ stringLexeme? u = some ⟨.string, u, .string⟩ ∧
        stringLexeme? (u ++ back) = some ⟨.string, u ++ back, .string⟩ := by
  have hplain : ∀ d ∈ back, isPlain d = true := fun d hd =>
    isPlain_of_isBlank (List.all_eq_true.1 hback d hd)
  obtain ⟨c, cs, rfl⟩ := List.exists_cons_of_ne_nil hu
  rw [List.cons_append]
  -- a quote and an escape are taken alone, everything else starts a run
  by_cases hquote : c = '"'
  · rw [hquote]
    exact .inl rfl
  by_cases hslash : c = '\\'
  · rw [hslash]
    exact .inl rfl
  have hrun : ∀ l, stringLexeme? (c :: l) = some ⟨.string, c :: l.takeWhile isPlain, .string⟩ := by
    intro l
    unfold stringLexeme?
    split <;> simp_all
  rw [hrun, hrun, List.takeWhile_append]
  split
  · next hall =>
    right
    rw [(List.takeWhile_prefix _).eq_of_length hall, List.takeWhile_eq_self_iff.2 hplain]
    simp [hquote]
  · exact .inl rfl

/-- Outside strings blanks are text. -/
lemma unmatched_of_isBlankText {back : Text} (hback : isBlankText back = true) :
    unmatched .root back = back := by
  induction back with
  | nil => rfl
  | cons b bs ih =>
    rw [Text.isBlankText_cons, Bool.and_eq_true] at hback
    rw [unmatched, lexeme?, rootLexeme?_of_isBlank hback.1, ih hback.2]
    rfl

/-- Text that does not reach the end of a line is the same with blanks behind the line; text that
does takes the blanks as well. -/
lemma unmatched_append {u back : Text} (hback : isBlankText back = true)
    (hline : '\n' ∉ u ++ back) :
    unmatched .root (u ++ back) = unmatched .root u ∨
      unmatched .root u = u ∧ unmatched .root (u ++ back) = u ++ back := by
  induction u with
  | nil => exact .inr ⟨rfl, unmatched_of_isBlankText hback⟩
  | cons c cs ih =>
    have hsome : (rootLexeme? (c :: cs ++ back)).isSome = (rootLexeme? (c :: cs)).isSome := by
      rcases rootLexeme?_append (List.cons_ne_nil c cs) hback hline with h | ⟨-, h, h'⟩
      · rw [h]
      · rw [h, h']
        rfl
    rw [List.cons_append] at hsome hline ⊢
    rw [unmatched, unmatched, lexeme?, hsome]
    split
    · exact .inl rfl
    · rcases ih fun h => hline (List.mem_cons_of_mem c h) with h | ⟨h, h'⟩
      · exact .inl (by rw [h])
      · exact .inr ⟨by rw [h], by rw [h']⟩

/-- What is cut off a line is cut off with blanks behind it too; a loose piece that reaches the end
of the line takes the blanks as well. -/
lemma piece_append (mode : Mode) {u back : Text} (hu : u ≠ []) (hback : isBlankText back = true)
    (hline : '\n' ∉ u ++ back) :
    piece mode (u ++ back) = piece mode u ∨
      ∃ kind, (kind = .comment ∨ kind = .text ∨ kind = .string) ∧ u ≠ ['"'] ∧
        piece mode u = ⟨kind, u, mode⟩ ∧ piece mode (u ++ back) = ⟨kind, u ++ back, mode⟩ := by
  cases mode with
  | string =>
    rcases stringLexeme?_append hu hback with h | ⟨hquote, h, h'⟩
    · left
      obtain ⟨l, hl, -⟩ := exists_stringLexeme? hu
      rw [piece_of_lexeme? .string hl, piece_of_lexeme? .string (h.trans hl)]
    · right
      exact ⟨.string, .inr (.inr rfl), hquote, piece_of_lexeme? .string h,
        piece_of_lexeme? .string h'⟩
  | root =>
    rcases rootLexeme?_append hu hback hline with h | ⟨hcommented, h, h'⟩
    · cases hu' : rootLexeme? u with
      | some l =>
        left
        rw [piece_of_lexeme? .root hu', piece_of_lexeme? .root (h.trans hu')]
      | none =>
        rw [piece_of_no_lexeme? .root hu',
          piece_of_no_lexeme? .root (h.trans hu')]
        rcases unmatched_append hback hline with h₁ | ⟨h₁, h₂⟩
        · exact .inl (by rw [h₁])
        · refine .inr ⟨.text, .inr (.inl rfl), ?_, by rw [h₁], by rw [h₂]⟩
          -- a quote is no text, since the rule for quotes applies to it
          intro hquote
          rw [hquote] at hu'
          cases hu'
    · refine .inr ⟨.comment, .inl rfl, ?_, piece_of_lexeme? .root h, piece_of_lexeme? .root h'⟩
      intro hquote
      rw [hquote] at hcommented
      cases hcommented

/-! ## Characters that no rule but the one for plain text takes -/

/-- The class of plain text. -/
def fillerClass : Mode → TokenClass
  | .root => .text
  | .string => .string

/-- The plain text at the head of a line. -/
def filler : Mode → Text → Text
  | .root => unmatched .root
  | .string => List.takeWhile isPlain

/-- Plain text is cut off as a whole. -/
lemma piece_of_filler {mode : Mode} {u : Text} (h : filler mode u ≠ []) :
    piece mode u = ⟨fillerClass mode, filler mode u, mode⟩ := by
  cases u with
  | nil => cases mode <;> exact absurd rfl h
  | cons c cs =>
    cases mode with
    | root =>
      have hnone : rootLexeme? (c :: cs) = none := by
        rw [← Option.not_isSome_iff_eq_none]
        intro hsome
        exact h (by rw [filler, unmatched, lexeme?, if_pos hsome])
      rw [piece_of_no_lexeme? .root hnone]
      rfl
    | string =>
      have hplain : isPlain c = true := by
        by_contra hc
        exact h (by rw [filler, List.takeWhile_cons_of_neg hc])
      apply piece_of_lexeme? .string
      rw [lexeme?, filler, List.takeWhile_cons_of_pos hplain]
      unfold stringLexeme?
      split <;> simp_all [isPlain, fillerClass]

/-- Blanks are plain text. -/
lemma filler_append (mode : Mode) {front : Text} (h : isBlankText front = true) (u : Text) :
    filler mode (front ++ u) = front ++ filler mode u := by
  cases mode with
  | root =>
    induction front with
    | nil => rfl
    | cons b bs ih =>
      rw [Text.isBlankText_cons, Bool.and_eq_true] at h
      have hnone := rootLexeme?_of_isBlank h.1 (bs ++ u)
      rw [filler] at ih ⊢
      rw [List.cons_append, unmatched, lexeme?, hnone, ih h.2]
      rfl
  | string =>
    apply List.takeWhile_append_of_pos
    intro b hb
    exact isPlain_of_isBlank (List.all_eq_true.1 h b hb)

/-- Plain text is loose. -/
lemma isLoose_filler (column : Nat) (mode : Mode) (u : Text) :
    Token.IsLoose ⟨column, filler mode u, fillerClass mode⟩ where
  kind := by cases mode <;> simp [fillerClass]
  text := by
    intro h
    cases u with
    | nil => cases mode <;> cases h
    | cons c cs =>
      cases mode with
      | root =>
        rw [filler, unmatched] at h
        split at h
        · cases h
        · next hnone =>
          obtain ⟨rfl, -⟩ := List.cons.inj h
          exact hnone rfl
      | string =>
        have hplain : isPlain '"' = true :=
          List.mem_takeWhile_imp (p := isPlain) (h ▸ List.mem_singleton_self '"')
        exact absurd hplain (by decide)

/-- The tokens of a line that starts with plain text: the text, and those of what is left. -/
lemma classifyFrom_of_filler (column : Nat) {mode : Mode} {u : Text} (h : filler mode u ≠ []) :
    classifyFrom column mode u =
      (⟨column, filler mode u, fillerClass mode⟩ ::
        (classifyFrom (column + (filler mode u).length) mode (u.drop (filler mode u).length)).1,
      (classifyFrom (column + (filler mode u).length) mode (u.drop (filler mode u).length)).2) := by
  have hu : u ≠ [] := by
    intro hnil
    rw [hnil] at h
    cases mode <;> exact h rfl
  rw [classifyFrom_of_ne_nil column mode hu, piece_of_filler h]

/-- A blank line is plain text, if it has any characters. -/
lemma classifyFrom_of_isBlankText (column j : Nat) (mode : Mode) {back : Text}
    (hback : isBlankText back = true) :
    Realigned j [] (classifyFrom column mode back).1 ∧
      (classifyFrom column mode back).2 = mode := by
  cases back with
  | nil =>
    rw [classifyFrom]
    exact ⟨.nil, rfl⟩
  | cons b bs =>
    have hfiller : filler mode (b :: bs) = b :: bs := by
      have h := filler_append mode hback []
      rw [List.append_nil] at h
      rw [h]
      cases mode <;> exact List.append_nil _
    rw [classifyFrom_of_filler column (by rw [hfiller]; exact List.cons_ne_nil b bs), hfiller,
      List.drop_length, classifyFrom]
    exact ⟨.blank (hfiller ▸ isLoose_filler column mode (b :: bs)) hback, rfl⟩

/-! ## Lines between blanks -/

/-- Blanks behind a line leave its tokens and its final mode as they are, but for loose tokens. -/
lemma realigned_classifyFrom (column j : Nat) (mode : Mode) (u : Text) {back : Text}
    (hback : isBlankText back = true) (hline : '\n' ∉ u ++ back) :
    Realigned j (classifyFrom column mode u).1 (classifyFrom (column + j) mode (u ++ back)).1 ∧
      (classifyFrom (column + j) mode (u ++ back)).2 = (classifyFrom column mode u).2 := by
  induction column, mode, u using classifyFrom.induct with
  | case1 column mode =>
    have h := classifyFrom_of_isBlankText (column + j) j mode hback
    rw [List.nil_append, classifyFrom]
    exact h
  | case2 column mode c cs p _ _ _ ih =>
    -- the same piece is cut off both lines, unless it is the last one
    have hu : c :: cs ≠ [] := List.cons_ne_nil c cs
    have hub : c :: cs ++ back ≠ [] := List.cons_ne_nil c (cs ++ back)
    rw [classifyFrom_of_ne_nil column mode hu, classifyFrom_of_ne_nil (column + j) mode hub]
    rcases piece_append mode hu hback hline with h | ⟨kind, hkind, hquote, h, h'⟩
    · have hle : p.text.length ≤ (c :: cs).length := (piece_isPrefix mode (c :: cs)).length_le
      have hrest : '\n' ∉ (c :: cs).drop p.text.length ++ back := by
        rw [← List.drop_append_of_le_length hle]
        exact fun hmem => hline (List.mem_of_mem_drop hmem)
      obtain ⟨hrealigned, hmode⟩ := ih hrest
      rw [h, List.drop_append_of_le_length hle, Nat.add_right_comm column j]
      exact ⟨.moved ⟨column, p.text, p.kind⟩ hrealigned, hmode⟩
    · -- the last piece reaches the end of both lines, so that nothing is left of either
      rw [h, h']
      simp only [List.drop_length, classifyFrom]
      refine ⟨.loose ⟨hkind, hquote⟩ ⟨hkind, ?_⟩ ?_ .nil, trivial⟩
      · intro heq
        obtain ⟨rfl, hnil⟩ := List.cons.inj heq
        exact hquote (by rw [(List.append_eq_nil_iff.1 hnil).1])
      · simp [hback]

/-- A loose token may stand for another one at the head of realigned tokens. -/
lemma Realigned.replace {j : Nat} {ts us : List Token} {t u : Token} (h : Realigned j ts (t :: us))
    (ht : t.IsLoose) (hu : u.IsLoose) (hblank : isBlankText u.text = isBlankText t.text) :
    Realigned j ts (u :: us) := by
  cases h with
  | blank hb hb' => exact .blank hu (hblank.trans hb')
  | moved t h => exact .loose (t := t) ⟨ht.kind, ht.text⟩ hu hblank h
  | loose ht' _ hblank' h => exact .loose ht' hu (hblank.trans hblank') h

/-- **Blanks around a line.** The tokens of a line between blanks are those of the line, framed, and
the final mode is the same. -/
theorem framed_classify (mode : Mode) {front back : Text} (u : Text)
    (hfront : isBlankText front = true) (hback : isBlankText back = true)
    (hline : '\n' ∉ u ++ back) :
    Framed front.length (classify mode u).1 (classify mode (front ++ (u ++ back))).1 ∧
      (classify mode (front ++ (u ++ back))).2 = (classify mode u).2 := by
  obtain ⟨hrealigned, hmode⟩ := realigned_classifyFrom 0 front.length mode u hback hline
  rw [Nat.zero_add] at hrealigned hmode
  rw [classify, classify]
  by_cases hnil : front = []
  · rw [hnil] at hrealigned hmode ⊢
    exact ⟨.flush hrealigned, hmode⟩
  -- the blanks in front go with the plain text at the head of the rest, if there is any
  have hfiller := filler_append mode hfront (u ++ back)
  have hne : filler mode (front ++ (u ++ back)) ≠ [] := by simp [hfiller, hnil]
  have hloose := isLoose_filler 0 mode (front ++ (u ++ back))
  rw [classifyFrom_of_filler 0 hne]
  rw [hfiller] at hloose ⊢
  rw [List.length_append, Nat.zero_add, List.drop_length_add_append]
  by_cases hplain : filler mode (u ++ back) = []
  · rw [hplain] at hloose ⊢
    rw [List.append_nil] at hloose ⊢
    exact ⟨.indented hloose hfront hrealigned, hmode⟩
  · rw [classifyFrom_of_filler front.length hplain] at hrealigned hmode
    refine ⟨.flush (hrealigned.replace (isLoose_filler _ mode _) hloose ?_), hmode⟩
    simp [hfront]

end Lexer

end Mermaid
