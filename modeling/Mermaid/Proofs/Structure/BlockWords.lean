import Mermaid.Proofs.Structure.Reading

/-!
# First words and block words

The structural check takes the first word of a line from its tokens, the layout looks at the
characters that the trimmed line starts with. A first word is as long as it can be, so no word
character follows it, and the layout sees it as well.

* `Lexer.headIs_drop_word` says that words are as long as they can be;
* `Structure.startsLine_of_firstWord?` is what the layout sees of a first word;
* `Keyword.not_opensBlockAt_of_closesBlockAt` says that no line both opens and closes a block.
-/

namespace Mermaid

/-! ## Words are as long as they can be -/

lemma Text.headIs_drop_hyphenatedRun (p : Char → Bool) (cs : Text) :
    headIs p (cs.drop (hyphenatedRun p cs).length) = false := by
  induction cs with
  | nil => rfl
  | cons c cs ih =>
    rw [hyphenatedRun]
    split
    · exact ih
    · next hc =>
      split
      · exact ih
      · exact Bool.eq_false_iff.2 hc

namespace Lexer

/-- No word character follows a word. -/
lemma headIs_drop_word {u : Text} (h : word u ≠ []) :
    Text.headIs Text.isWord (u.drop (word u).length) = false := by
  cases u with
  | nil => rfl
  | cons c cs =>
    rw [word] at h ⊢
    split at h
    · next hstart =>
      have hparts := Text.headIs_drop_hyphenatedRun isWordPart cs
      rw [if_pos hstart, List.length_cons, List.drop_succ_cons]
      cases hrest : cs.drop (Text.hyphenatedRun isWordPart cs).length with
      | nil => rfl
      | cons d ds =>
        rw [hrest] at hparts
        exact (Bool.or_eq_false_iff.1 hparts).1
    · exact absurd rfl h

/-- A lexeme that is a word is the word at its place. -/
lemma text_of_rootLexeme? {u : Text} {l : Lexeme} (h : rootLexeme? u = some l)
    (hword : l.kind = .keyword ∨ l.kind = .identifier) : l.text = word u ∧ word u ≠ [] := by
  unfold rootLexeme? at h
  split at h
  · cases h
    simp at hword
  · split at h
    · cases h
      simp at hword
    · split at h
      · cases h
        simp at hword
      · split at h
        · next c w hw =>
          cases h
          exact ⟨hw.symm, by simp [hw]⟩
        · cases h

/-- What is cut off as a word is the word at its place. -/
lemma text_of_isWord_piece {u : Text} {column : Nat}
    (h : Token.isWord ⟨column, (piece .root u).text, (piece .root u).kind⟩ = true) :
    (piece .root u).text = word u ∧ word u ≠ [] := by
  have hkind : (piece .root u).kind = .keyword ∨ (piece .root u).kind = .identifier := by
    simpa [Token.isWord] using h
  cases hl : rootLexeme? u with
  | none =>
    rw [piece_of_no_lexeme? .root hl] at hkind
    simp at hkind
  | some l =>
    rw [piece_of_lexeme? .root hl] at hkind ⊢
    exact text_of_rootLexeme? hl hkind

end Lexer

namespace Structure

/-- The layout sees a first word at the start of the trimmed line, where it ends. -/
theorem startsLine_of_firstWord? {mode : Mode} {line : Text} (hline : '\n' ∉ line) {t : Token}
    (h : firstWord? (Lexer.classify mode line).1 = some t) :
    Keyword.startsLine (Text.trim line) t.text = true := by
  cases mode with
  | string =>
    rw [Lexer.classify, firstWord?_classifyFrom_string 0 .string line rfl] at h
    cases h
  | root =>
    obtain ⟨front, back, hsplit, -, hfront, hback⟩ := Text.eq_append_trim_append line
    -- the first word is that of the trimmed line, moved by the margin
    have hinner : '\n' ∉ Text.trim line ++ back := by
      intro hmem
      rw [hsplit] at hline
      exact hline (List.mem_append_right front hmem)
    obtain ⟨hframed, -⟩ := Lexer.framed_classify .root (Text.trim line) hfront hback hinner
    rw [← hsplit] at hframed
    rw [firstWord?_of_framed hframed, Option.map_eq_some_iff] at h
    obtain ⟨u, hu, rfl⟩ := h
    rw [Token.moved_text]
    cases hchars : Text.trim line with
    | nil =>
      rw [hchars, Lexer.classify, Lexer.classifyFrom] at hu
      cases hu
    | cons c cs =>
      have hne : c :: cs ≠ [] := List.cons_ne_nil c cs
      rw [hchars, Lexer.classify, Lexer.classifyFrom_of_ne_nil 0 .root hne, firstWord?] at hu
      split at hu
      · next hword =>
        cases hu
        obtain ⟨htext, hword⟩ := Lexer.text_of_isWord_piece hword
        rw [Keyword.startsLine, htext, Lexer.headIs_drop_word hword,
          List.isPrefixOf_iff_prefix.2 (Lexer.word_isPrefix _)]
        rfl
      · -- a trimmed line does not start with blanks
        split at hu
        · next hblank =>
          obtain ⟨d, ds, hpiece⟩ := List.exists_cons_of_ne_nil (Lexer.piece_ne_nil .root hne)
          obtain ⟨rest, hrest⟩ := Lexer.piece_isPrefix .root (c :: cs)
          rw [hpiece] at hrest hblank
          obtain ⟨rfl, -⟩ := List.cons.inj hrest
          rw [Text.isBlankText_cons, Text.isBlank_of_trim_eq_cons hchars] at hblank
          cases hblank
        · cases hu

end Structure

/-! ## Block words -/

namespace Keyword

/-- No line starts with a word that opens a block and with one that closes a block. -/
lemma not_opensBlockAt_of_closesBlockAt {line : Text} (h : closesBlockAt line = true) :
    opensBlockAt line = false := by
  have hnames : ∀ v ∈ closerTexts, ∀ w ∈ openerTexts, ¬v <+: w ∧ ¬w <+: v := by decide
  obtain ⟨v, hv, hcloses⟩ := List.any_eq_true.1 h
  rw [startsLine, Bool.and_eq_true, List.isPrefixOf_iff_prefix] at hcloses
  rw [opensBlockAt, List.any_eq_false]
  intro w hw hopens
  rw [startsLine, Bool.and_eq_true, List.isPrefixOf_iff_prefix] at hopens
  exact (List.prefix_or_prefix_of_prefix hcloses.1 hopens.1).elim (hnames v hv w hw).1
    (hnames v hv w hw).2

end Keyword

end Mermaid
