import Mermaid.Proofs.Lexer.Blanks
import Mermaid.Proofs.Structure.Brackets
import Mermaid.Proofs.Structure.Statements

/-!
# What the structural check reads of a line

Of the tokens of a line the check reads the first word, the brackets and the last quote. Blanks
around the line move them together. A line that starts inside a string has no first word, and no
word of the line before it turns its first token into a bracket; so a statement is read line by
line.
-/

namespace Mermaid

/-- A loose token is no word. -/
lemma Token.IsLoose.isWord {t : Token} (h : t.IsLoose) : t.isWord = false := by
  rcases h.kind with hkind | hkind | hkind <;> simp [Token.isWord, hkind]

namespace Structure

/-- A loose token is no bracket. -/
lemma bracketOf?_of_isLoose {t : Token} (h : t.IsLoose) : bracketOf? t = none := by
  unfold bracketOf?
  split
  · next hkind _ => rcases h.kind with h | h | h <;> rw [h] at hkind <;> cases hkind
  · rfl

/-- The bracket with its column moved to the right, by the margin of its line. -/
def OpenBracket.moved (margin : Nat → Nat) (b : OpenBracket) : OpenBracket :=
  { b with column := b.column + margin b.line }

/-- The head with its column moved to the right, by the margin of its line. -/
def Head.moved (margin : Nat → Nat) (h : Head) : Head :=
  { h with column := h.column + margin h.line }

/-! ## Realigned tokens -/

section

open Lexer (Realigned Framed)

/-- Realigned tokens have the same first word. -/
lemma firstWord?_of_realigned {j : Nat} {ts us : List Token} (h : Realigned j ts us) :
    firstWord? us = (firstWord? ts).map (·.moved j) := by
  induction h with
  | nil => rfl
  | blank hb hblank => simp [firstWord?, hb.isWord, hblank]
  | moved t _ ih =>
    rw [firstWord?, firstWord?, Token.moved_isWord, Token.moved_text, ih]
    split
    · rfl
    · split <;> rfl
  | loose ht hu hblank _ ih =>
    rw [firstWord?, firstWord?, ht.isWord, hu.isWord, hblank, ih]
    simp only [Bool.false_eq_true, if_false]
    split <;> rfl

/-- Blanks in front of a line do not change its first word. -/
lemma firstWord?_of_framed {j : Nat} {ts us : List Token} (h : Framed j ts us) :
    firstWord? us = (firstWord? ts).map (·.moved j) := by
  cases h with
  | flush h => exact firstWord?_of_realigned h
  | indented hb hblank h =>
    rw [firstWord?, hb.isWord, if_neg (by simp), if_pos hblank, firstWord?_of_realigned h]

/-- Realigned tokens have the same quotes. -/
lemma filter_quote_of_realigned {j : Nat} {ts us : List Token} (h : Realigned j ts us) :
    us.filter (·.text = ['"']) = (ts.filter (·.text = ['"'])).map (·.moved j) := by
  induction h with
  | nil => rfl
  | blank hb _ => simp [hb.text]
  | moved t _ ih =>
    rw [List.filter_cons, List.filter_cons, Token.moved_text, ih]
    split <;> rfl
  | loose ht hu _ _ ih => simp [ht.text, hu.text, ih]

/-- Blanks in front of a line do not change its quotes. -/
lemma filter_quote_of_framed {j : Nat} {ts us : List Token} (h : Framed j ts us) :
    us.filter (·.text = ['"']) = (ts.filter (·.text = ['"'])).map (·.moved j) := by
  cases h with
  | flush h => exact filter_quote_of_realigned h
  | indented hb _ h =>
    rw [List.filter_cons_of_neg (by simp [hb.text]), filter_quote_of_realigned h]

/-- The tokens of a line with a number. -/
def located (number : Nat) (ts : List Token) : Statement := ts.map (⟨number, ·⟩)

/-- A token opens a bracket only through whether it is a word. -/
lemma bracketAt?_congr {previous previous' : Option Token}
    (h : previous'.any Token.isWord = previous.any Token.isWord) (t : LocatedToken) :
    bracketAt? previous' t = bracketAt? previous t := by
  have hopens : ∀ c, opensAfter previous' c = opensAfter previous c := by
    intro c
    rw [opensAfter, opensAfter, h]
  rw [bracketAt?, bracketAt?]
  simp only [hopens]

/-- A token that is moved is the same bracket, moved. -/
lemma bracketAt?_moved (margin : Nat → Nat) (previous : Option Token) (number : Nat) (t : Token) :
    bracketAt? previous ⟨number, t.moved (margin number)⟩ =
      (bracketAt? previous ⟨number, t⟩).map (·.moved margin) := by
  have hbracket : bracketOf? (t.moved (margin number)) = bracketOf? t := rfl
  rw [bracketAt?, bracketAt?, hbracket]
  cases bracketOf? t with
  | none => rfl
  | some c =>
    simp only [Option.bind_some]
    split <;> rfl

/-- Realigned tokens have the same brackets. -/
lemma bracketsAfter_of_realigned {margin : Nat → Nat} {number : Nat} {ts us : List Token}
    (h : Realigned (margin number) ts us) (previous previous' : Option Token)
    (hprevious : previous'.any Token.isWord = previous.any Token.isWord) :
    bracketsAfter previous' (located number us) =
      (bracketsAfter previous (located number ts)).map (·.moved margin) := by
  have hloose : ∀ (previous : Option Token) {t : Token}, t.IsLoose →
      bracketAt? previous ⟨number, t⟩ = none := by
    intro previous t ht
    rw [bracketAt?, bracketOf?_of_isLoose ht, Option.bind_none]
  induction h generalizing previous previous' with
  | nil => rfl
  | @blank b hb _ =>
    show (bracketAt? previous' ⟨number, b⟩).toList ++ [] = []
    rw [hloose previous' hb]
    rfl
  | @moved t ts us _ ih =>
    show (bracketAt? previous' ⟨number, t.moved (margin number)⟩).toList ++
        bracketsAfter (some (t.moved (margin number))) (located number us) =
      ((bracketAt? previous ⟨number, t⟩).toList ++
        bracketsAfter (some t) (located number ts)).map (·.moved margin)
    rw [bracketAt?_congr hprevious, bracketAt?_moved, List.map_append,
      ih (some t) (some (t.moved (margin number))) rfl]
    cases bracketAt? previous ⟨number, t⟩ <;> rfl
  | @loose t u ht hu _ ts us _ ih =>
    show (bracketAt? previous' ⟨number, u⟩).toList ++
        bracketsAfter (some u) (located number us) =
      ((bracketAt? previous ⟨number, t⟩).toList ++
        bracketsAfter (some t) (located number ts)).map (·.moved margin)
    rw [hloose previous' hu, hloose previous ht,
      ih (some t) (some u) (by simp [ht.isWord, hu.isWord])]
    rfl

/-- Blanks in front of a line do not change its brackets. -/
lemma bracketsAfter_of_framed {margin : Nat → Nat} {number : Nat} {ts us : List Token}
    (h : Framed (margin number) ts us) :
    bracketsAfter none (located number us) =
      (bracketsAfter none (located number ts)).map (·.moved margin) := by
  cases h with
  | flush h => exact bracketsAfter_of_realigned h none none rfl
  | @indented b hb _ _ us h =>
    show (bracketAt? none ⟨number, b⟩).toList ++ bracketsAfter (some b) (located number us) = _
    rw [bracketAt?, bracketOf?_of_isLoose hb,
      bracketsAfter_of_realigned h none (some b) (by simp [hb.isWord])]
    rfl

end

/-! ## Lines that start inside a string -/

/-- Whether a line has no first word, and no bracket as its first token. -/
structure ScannedLine.Continues (l : ScannedLine) : Prop where
  word : firstWord? l.tokens = none
  bracket : ∀ t ∈ l.tokens.head?, bracketOf? t = none

/-- Inside a string everything is part of the string, up to its closing quote. -/
lemma piece_string {u : Text} (hu : u ≠ []) : (Lexer.piece .string u).kind = .string ∧
    ((Lexer.piece .string u).next = .string ∨ (Lexer.piece .string u).text = ['"']) := by
  obtain ⟨l, hl, hkind, hnext⟩ := Lexer.exists_stringLexeme? hu
  rw [Lexer.piece_of_lexeme? .string hl]
  exact ⟨hkind, hnext⟩

/-- Inside a string no word comes first. -/
lemma firstWord?_classifyFrom_string (column : Nat) (mode : Mode) (u : Text)
    (hmode : mode = .string) : firstWord? (Lexer.classifyFrom column mode u).1 = none := by
  induction column, mode, u using Lexer.classifyFrom.induct with
  | case1 column mode =>
    rw [Lexer.classifyFrom]
    rfl
  | case2 column mode c cs p _ _ _ ih =>
    have hu : c :: cs ≠ [] := List.cons_ne_nil c cs
    rw [Lexer.classifyFrom_of_ne_nil column mode hu]
    subst hmode
    obtain ⟨hkind, hnext⟩ := piece_string hu
    have hword : Token.isWord ⟨column, p.text, p.kind⟩ = false := by simp [Token.isWord, p, hkind]
    rw [firstWord?, hword, if_neg (by simp)]
    -- what is blank does not end the string, so the rest of the line is inside it as well
    split
    · next hblank =>
      refine ih (hnext.resolve_right ?_)
      intro hquote
      simp only [hquote] at hblank
      exact absurd hblank (by decide)
    · rfl

/-- A line that starts inside a string continues the line before it. -/
lemma continues_of_string (number : Nat) (line : Text) (mode : Mode) :
    ScannedLine.Continues ⟨number, line, (Lexer.classify .string line).1, mode⟩ where
  word := firstWord?_classifyFrom_string 0 .string line rfl
  bracket := by
    intro t ht
    by_cases hline : line = []
    · simp only [hline, Lexer.classify, Lexer.classifyFrom] at ht
      cases ht
    · simp only [Lexer.classify, Lexer.classifyFrom_of_ne_nil 0 .string hline] at ht
      cases ht
      simp only [bracketOf?, (piece_string hline).1]

/-! ## Groups of lines -/

/-- Whether lines follow one another, and all after the first continue the line before. -/
structure IsGroup (g : List ScannedLine) : Prop where
  numbers : g.Pairwise fun l l' => l.number < l'.number
  continued : ∀ l ∈ g.tail, l.Continues

/-- The lines of a scan have ascending numbers. -/
lemma pairwise_scanLines (mode : Mode) (number : Nat) (ls : List Text) :
    (scanLines mode number ls).Pairwise (fun l l' => l.number < l'.number) ∧
      ∀ l ∈ scanLines mode number ls, number ≤ l.number := by
  induction ls generalizing mode number with
  | nil => exact ⟨.nil, by simp [scanLines]⟩
  | cons line ls ih =>
    obtain ⟨hpairwise, hle⟩ := ih (Lexer.classify mode line).2 (number + 1)
    rw [scanLines]
    refine ⟨List.pairwise_cons.2 ⟨?_, hpairwise⟩, ?_⟩
    · intro l hl
      have := hle l hl
      show number < l.number
      omega
    · intro l hl
      rcases List.mem_cons.1 hl with rfl | hmem
      · exact Nat.le_refl number
      · have := hle l hmem
        omega

/-- All lines of the first group below an open string continue the line before. -/
lemma continues_of_head_groups (number : Nat) (ls : List Text) :
    ∀ g ∈ (groups (scanLines .string number ls)).head?, ∀ l ∈ g, l.Continues := by
  induction ls generalizing number with
  | nil => simp [scanLines, groups]
  | cons line ls ih =>
    have hline := continues_of_string number line (Lexer.classify .string line).2
    rw [scanLines, groups]
    dsimp only
    split
    · next hmode =>
      rw [hmode] at hline ⊢
      have hrest := ih (number + 1)
      cases hgroups : groups (scanLines .string (number + 1) ls) with
      | nil => simp
      | cons g' gs =>
        rw [hgroups] at hrest
        intro g hg
        cases hg
        intro l hl
        rcases List.mem_cons.1 hl with rfl | hmem
        · exact hline
        · exact hrest g' rfl l hmem
    · intro g hg
      cases hg
      simpa using hline

/-- All lines of a group but the first continue the line before. -/
lemma continues_of_mem_tail {mode : Mode} {number : Nat} {ls : List Text} {g : List ScannedLine}
    (hg : g ∈ groups (scanLines mode number ls)) : ∀ l ∈ g.tail, l.Continues := by
  induction ls generalizing mode number with
  | nil => simp [scanLines, groups] at hg
  | cons line ls ih =>
    rw [scanLines, groups] at hg
    dsimp only at hg
    split at hg
    · next hmode =>
      rw [hmode] at hg
      have hhead := continues_of_head_groups (number + 1) ls
      cases hgroups : groups (scanLines .string (number + 1) ls) with
      | nil =>
        rw [hgroups] at hg
        cases hg
      | cons g' gs =>
        rw [hgroups] at hhead hg
        rcases List.mem_cons.1 hg with rfl | hmem
        · exact hhead g' rfl
        · exact ih (hgroups ▸ List.mem_cons_of_mem g' hmem)
    · rcases List.mem_cons.1 hg with rfl | hmem
      · simp
      · exact ih hmem

/-- The groups of scanned lines are groups. -/
lemma isGroup_of_mem_groups {mode : Mode} {number : Nat} {ls : List Text} {g : List ScannedLine}
    (hg : g ∈ groups (scanLines mode number ls)) : IsGroup g where
  numbers := by
    obtain ⟨⟨rest, hrest, -⟩, -⟩ := groups_spec (scanLines mode number ls)
    have hsublist : g.Sublist (scanLines mode number ls) := by
      rw [hrest]
      exact (List.sublist_flatten_of_mem hg).trans (List.sublist_append_left _ _)
    exact (pairwise_scanLines mode number ls).1.sublist hsublist
  continued := continues_of_mem_tail hg

/-! ## Groups read line by line -/

/-- The head that a line gives a statement. -/
def ScannedLine.head? (l : ScannedLine) : Option Head :=
  (firstWord? l.tokens).map fun t => ⟨t.text, l.number, t.start⟩

/-- The brackets of a line. -/
def ScannedLine.brackets (l : ScannedLine) : List OpenBracket := bracketsAfter none l.located

lemma ScannedLine.located_eq_nil {l : ScannedLine} (h : l.tokens = []) : l.located = [] := by
  rw [ScannedLine.located, h, List.map_nil]

/-- The head of a statement is that of the first line with tokens, if no other line has its number.
-/
lemma head?_located_append {l : ScannedLine} (hl : l.tokens ≠ []) {s : Statement}
    (hs : ∀ t ∈ s, t.line ≠ l.number) : head? (l.located ++ s) = l.head? := by
  obtain ⟨t, ts, ht⟩ := List.exists_cons_of_ne_nil hl
  have hcons : l.located ++ s = ⟨l.number, t⟩ :: (located l.number ts ++ s) := by
    rw [ScannedLine.located, ht]
    rfl
  have hown : l.located.filter (fun t => t.line = l.number) = l.located := by
    rw [List.filter_eq_self]
    intro t ht
    obtain ⟨u, -, rfl⟩ := List.mem_map.1 ht
    exact decide_eq_true rfl
  -- the check takes the tokens with the number of the first one to be those of its line
  have hother : s.filter (fun t => t.line = l.number) = [] := by
    rw [List.filter_eq_nil_iff]
    intro t ht
    simpa using hs t ht
  have htokens : l.located.map LocatedToken.token = l.tokens := by
    rw [ScannedLine.located, List.map_map]
    exact List.map_id l.tokens
  rw [hcons, head?, ← hcons]
  dsimp only
  rw [List.filter_append, hown, hother, List.append_nil, htokens]
  rfl

/-- The tokens of later lines have other line numbers. -/
lemma line_ne_of_mem_statementOf {number : Nat} {g : List ScannedLine}
    (hg : ∀ l ∈ g, number < l.number) : ∀ t ∈ statementOf g, t.line ≠ number := by
  intro t ht
  obtain ⟨l, hl, hmem⟩ := List.mem_flatMap.1 ht
  obtain ⟨u, -, rfl⟩ := List.mem_map.1 hmem
  exact Nat.ne_of_gt (hg l hl)

/-- Lines that continue other lines have no head. -/
lemma head?_statementOf_of_continues {g : List ScannedLine}
    (hnumbers : g.Pairwise fun l l' => l.number < l'.number) (hg : ∀ l ∈ g, l.Continues) :
    head? (statementOf g) = none := by
  induction g with
  | nil => rfl
  | cons l g ih =>
    obtain ⟨hlt, hnumbers⟩ := List.pairwise_cons.1 hnumbers
    obtain ⟨hl, hg⟩ := List.forall_mem_cons.1 hg
    rw [statementOf, List.flatMap_cons, ← statementOf]
    by_cases hnil : l.tokens = []
    · rw [ScannedLine.located_eq_nil hnil, List.nil_append]
      exact ih hnumbers hg
    · rw [head?_located_append hnil (line_ne_of_mem_statementOf hlt), ScannedLine.head?, hl.word]
      rfl

/-- The head of a group is that of its first line. -/
lemma head?_statementOf {l : ScannedLine} {g : List ScannedLine} (hg : IsGroup (l :: g)) :
    head? (statementOf (l :: g)) = l.head? := by
  obtain ⟨hlt, hnumbers⟩ := List.pairwise_cons.1 hg.numbers
  rw [statementOf, List.flatMap_cons, ← statementOf]
  by_cases hnil : l.tokens = []
  · rw [ScannedLine.located_eq_nil hnil, List.nil_append,
      head?_statementOf_of_continues hnumbers hg.continued, ScannedLine.head?, hnil]
    rfl
  · exact head?_located_append hnil (line_ne_of_mem_statementOf hlt)

/-- The brackets of a statement are those of its parts; what the later part goes on after is left
open. -/
lemma bracketsAfter_append (previous : Option Token) (s s' : Statement) :
    ∃ last, bracketsAfter previous (s ++ s') =
      bracketsAfter previous s ++ bracketsAfter last s' := by
  induction s generalizing previous with
  | nil => exact ⟨previous, rfl⟩
  | cons t s ih =>
    obtain ⟨last, h⟩ := ih (some t.token)
    refine ⟨last, ?_⟩
    rw [List.cons_append, bracketsAfter, h, bracketsAfter, List.append_assoc]

/-- A line that continues another one has the same brackets after any token. -/
lemma ScannedLine.Continues.bracketsAfter {l : ScannedLine} (hl : l.Continues)
    (previous : Option Token) : bracketsAfter previous l.located = l.brackets := by
  have hbracket := hl.bracket
  rw [brackets, ScannedLine.located]
  cases htokens : l.tokens with
  | nil => rfl
  | cons t ts =>
    rw [htokens] at hbracket
    rw [List.map_cons, Structure.bracketsAfter, Structure.bracketsAfter, bracketAt?, bracketAt?,
      hbracket t rfl]
    rfl

/-- The brackets of a group are those of its lines. -/
lemma bracketsAfter_statementOf {l : ScannedLine} {g : List ScannedLine} (hg : IsGroup (l :: g)) :
    bracketsAfter none (statementOf (l :: g)) = (l :: g).flatMap ScannedLine.brackets := by
  have hrest : ∀ (g : List ScannedLine) (previous : Option Token), (∀ l ∈ g, l.Continues) →
      bracketsAfter previous (statementOf g) = g.flatMap ScannedLine.brackets := by
    intro g
    induction g with
    | nil => intro previous _; rfl
    | cons l g ih =>
      intro previous hg
      obtain ⟨hl, hg⟩ := List.forall_mem_cons.1 hg
      obtain ⟨last, h⟩ := bracketsAfter_append previous l.located (statementOf g)
      rw [statementOf, List.flatMap_cons, ← statementOf, h, hl.bracketsAfter, ih last hg,
        List.flatMap_cons]
  obtain ⟨last, h⟩ := bracketsAfter_append none l.located (statementOf g)
  rw [statementOf, List.flatMap_cons, ← statementOf, h, hrest g last hg.continued,
    List.flatMap_cons]
  rfl

end Structure

end Mermaid
