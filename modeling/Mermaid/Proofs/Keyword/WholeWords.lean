import Mermaid.Proofs.Lexer.Comments
import Mermaid.Proofs.Structure.BlockWords

/-!
# Block words and the words of the lexer

The layout and the lexer do not agree on where a word ends. For the layout a block word ends where
no letter, digit or underscore follows; for the lexer a word also goes on with hyphens and dollar
signs. So the layout finds a block word in the longer words of the lexer that go on so behind one.

* `Lexer.firstToken?` is the first token of a line outside strings;
* `Keyword.startsLine_iff` says where the layout finds a name, in terms of words of the lexer;
* `Keyword.block_words_at` compares both for all block words.
-/

namespace Mermaid

namespace Lexer

/-- The first token of a line outside strings. -/
def firstToken? (line : Text) : Option Token := (classify .root line).1.head?

lemma firstToken?_of_ne_nil {line : Text} (h : line ≠ []) :
    firstToken? line = some ⟨0, (piece .root line).text, (piece .root line).kind⟩ := by
  rw [firstToken?, classify, classifyFrom_of_ne_nil 0 .root h]
  rfl

/-- The first token of a line that starts with a word is the longest word there. -/
lemma firstToken?_of_word {line : Text} (h : word line ≠ []) :
    firstToken? line = some ⟨0, word line, wordClass (word line)⟩ := by
  obtain ⟨rest, hrest⟩ := word_isPrefix line
  have hword := isWord_word h
  have hlongest := (word_append_eq_iff hword).1 (congrArg word hrest)
  have hlexeme := rootLexeme?_of_takes (.word hword hlongest)
  rw [hrest, ← wordClass_eq] at hlexeme
  have hne : line ≠ [] := by
    rintro rfl
    exact h rfl
  rw [firstToken?_of_ne_nil hne, piece_of_lexeme? .root hlexeme]

/-- A first token that is a word is the longest word at the start of the line. -/
lemma eq_word_of_firstToken? {line : Text} {t : Token} (h : firstToken? line = some t)
    (hword : t.isWord = true) : t = ⟨0, word line, wordClass (word line)⟩ := by
  cases line with
  | nil =>
    rw [firstToken?, classify, classifyFrom] at h
    cases h
  | cons c cs =>
    have hpiece := firstToken?_of_ne_nil (List.cons_ne_nil c cs)
    obtain rfl := Option.some.inj (hpiece.symm.trans h)
    obtain ⟨-, hne⟩ := text_of_isWord_piece hword
    exact Option.some.inj (hpiece.symm.trans (firstToken?_of_word hne))

end Lexer

namespace Keyword

open Lexer (word firstToken?)

/-- Whether the first token of a line is a keyword and one of some names. -/
def LeadsWith (names : List Text) (line : Text) : Prop :=
  ∃ t, firstToken? line = some t ∧ t.kind = .keyword ∧ t.text ∈ names

/-- Whether the first token of a line is a word that goes on behind one of some names, with a hyphen
or a dollar sign. -/
def LeadsBeyond (names : List Text) (line : Text) : Prop :=
  ∃ t name c rest, firstToken? line = some t ∧ t.isWord = true ∧ name ∈ names ∧
    t.text = name ++ c :: rest ∧ (c = '-' ∨ c = '$')

/-- A line starts with a name as the layout sees it if its first word is the name, or goes on behind
it with a hyphen or a dollar sign. -/
lemma startsLine_iff {name : Text} (hname : Lexer.IsWord name) (line : Text) :
    startsLine line name = true ↔
      ∃ rest, word line = name ++ rest ∧ ∀ c ∈ rest.head?, c = '-' ∨ c = '$' := by
  rw [startsLine, Bool.and_eq_true, List.isPrefixOf_iff_prefix, Bool.not_eq_true']
  constructor
  · rintro ⟨hstart, hends⟩
    obtain ⟨rest, hrest⟩ := hname.isPrefix_word hstart
    refine ⟨rest, hrest.symm, ?_⟩
    intro c hc
    obtain ⟨cs, rfl⟩ := List.head?_eq_some_iff.1 hc
    obtain ⟨behind, hline⟩ := Lexer.word_isPrefix line
    -- no word character follows the name, so only the other characters of words are left
    have hnot : Text.isWord c = false := by
      rw [← hline, ← hrest, List.append_assoc, List.drop_left] at hends
      exact hends
    have hword : Lexer.IsWord (word line) := by
      apply Lexer.isWord_word
      rw [← hrest]
      simp
    rw [← hrest] at hword
    by_contra hother
    rw [not_or] at hother
    have hpart : Lexer.isWordPart c = false := by
      rw [Lexer.isWordPart, hnot]
      simpa using hother.2
    cases hname with
    | mk _ _ =>
      cases hword with
      | mk _ hu => exact hu.not_mem hpart hother.1 (by simp)
  · rintro ⟨rest, hrest, hnext⟩
    obtain ⟨behind, hline⟩ := Lexer.word_isPrefix line
    rw [hrest, List.append_assoc] at hline
    refine ⟨⟨_, hline⟩, ?_⟩
    cases rest with
    | nil =>
      have hends := Lexer.headIs_drop_word (u := line) (by cases hname; rw [hrest]; simp)
      rwa [hrest, List.append_nil] at hends
    | cons c rest =>
      have hyphen : Text.isWord '-' = false := by decide +kernel
      have dollar : Text.isWord '$' = false := by decide +kernel
      rw [← hline, List.drop_left]
      rcases hnext c rfl with rfl | rfl
      · exact hyphen
      · exact dollar

/-- A line starts with one of some keywords, as the layout sees it, if its first token is one of
them, or goes on behind one with a hyphen or a dollar sign. -/
lemma any_startsLine_iff {names : List Text}
    (hnames : ∀ name ∈ names, Lexer.IsWord name ∧ isKeyword name = true) (line : Text) :
    names.any (startsLine line) = true ↔ LeadsWith names line ∨ LeadsBeyond names line := by
  rw [List.any_eq_true]
  constructor
  · rintro ⟨name, hmem, hstarts⟩
    obtain ⟨hname, hkeyword⟩ := hnames name hmem
    obtain ⟨rest, hword, hnext⟩ := (startsLine_iff hname line).1 hstarts
    have hfirst := @Lexer.firstToken?_of_word line (by cases hname; rw [hword]; simp)
    cases rest with
    | nil =>
      rw [List.append_nil] at hword
      rw [hword, Lexer.wordClass, if_pos hkeyword] at hfirst
      exact .inl ⟨_, hfirst, rfl, hmem⟩
    | cons c rest =>
      refine .inr ⟨_, name, c, rest, hfirst, ?_, hmem, hword, hnext c rfl⟩
      rw [Lexer.wordClass]
      split <;> rfl
  · rintro (⟨t, ht, hkind, hmem⟩ | ⟨t, name, c, rest, ht, hisWord, hmem, htext, hc⟩)
    · have hfirst := Lexer.eq_word_of_firstToken? ht (by rw [Token.isWord, hkind]; rfl)
      refine ⟨t.text, hmem, (startsLine_iff (hnames _ hmem).1 line).2 ⟨[], ?_, by simp⟩⟩
      rw [hfirst, List.append_nil]
    · have hfirst := Lexer.eq_word_of_firstToken? ht hisWord
      refine ⟨name, hmem, (startsLine_iff (hnames _ hmem).1 line).2 ⟨c :: rest, ?_, ?_⟩⟩
      · rw [← htext, hfirst]
      · simpa using hc

lemma isWord_of_mem_blockWords :
    ∀ name ∈ openerTexts ++ closerTexts, Lexer.IsWord name ∧ isKeyword name = true := by
  have hnames : ∀ name ∈ openerTexts ++ closerTexts,
      word name = name ∧ name ≠ [] ∧ isKeyword name = true := by decide +kernel
  intro name hmem
  obtain ⟨hword, hne, hkeyword⟩ := hnames name hmem
  refine ⟨?_, hkeyword⟩
  rw [← hword] at hne ⊢
  exact Lexer.isWord_word hne

/-- **Block words and words.** The layout takes a line for the start of a block if the first token
is a keyword that opens one, but also if it is a longer word that goes on behind such a keyword with
a hyphen or a dollar sign; and likewise for the end of a block. Of the keywords, `classDiagram-v2`
and `flowchart-elk` are longer words of this kind that open no block themselves. -/
theorem block_words_at (line : Text) :
    (opensBlockAt line = true ↔ LeadsWith openerTexts line ∨ LeadsBeyond openerTexts line) ∧
      (closesBlockAt line = true ↔ LeadsWith closerTexts line ∨ LeadsBeyond closerTexts line) ∧
      (wordTexts.filter fun w => opensBlockAt w && !openerTexts.contains w) =
        ["classDiagram-v2".toList, "flowchart-elk".toList] ∧
      (wordTexts.filter fun w => closesBlockAt w && !closerTexts.contains w) = [] := by
  obtain ⟨hopeners, hclosers⟩ := List.forall_mem_append.1 isWord_of_mem_blockWords
  exact ⟨any_startsLine_iff hopeners line, any_startsLine_iff hclosers line, by decide +kernel,
    by decide +kernel⟩

/-- A kind of diagram that opens no block is taken for the shorter one that does. -/
theorem not_forall_block_words_at :
    ¬∀ line : Text, line ≠ [] → Text.trim line = line →
      (opensBlockAt line = true ↔ LeadsWith openerTexts line) := by
  intro h
  have hopens : opensBlockAt "flowchart-elk TD".toList = true := by decide +kernel
  obtain ⟨t, ht, -, hmem⟩ := (h "flowchart-elk TD".toList (by decide) (by decide +kernel)).1 hopens
  have hfirst : firstToken? "flowchart-elk TD".toList =
      some ⟨0, "flowchart-elk".toList, .keyword⟩ := by
    decide +kernel
  rw [hfirst] at ht
  obtain rfl := Option.some.inj ht
  exact absurd hmem (by decide)

end Keyword
end Mermaid
