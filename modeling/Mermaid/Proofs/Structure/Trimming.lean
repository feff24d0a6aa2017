import Mermaid.Structure.Check
import Mermaid.Proofs.Structure.Declaration
import Mermaid.Proofs.Structure.Reading
import Mathlib.Data.List.Forall2

/-!
# Blanks around lines and the structural check

The check of a text comes to the same as that of its trimmed lines: a problem has the same cause,
and starts further right by the margin of its line. Two runs of the check go side by side; the one
on the text has each column moved by the margin of its line.
-/

namespace Mermaid.Structure

/-- Whether a problem has the same cause as another one, and starts further right by the margin of
its line. -/
structure Problem.Moved (margin : Nat → Nat) (p q : Problem) : Prop where
  cause : q.cause = p.cause
  place : Option.Rel (fun a b => b.line = a.line ∧ b.first = a.first + margin a.line)
    p.place q.place

/-- Whether two checks succeed with corresponding results, or find corresponding problems. -/
inductive Alike (margin : Nat → Nat) {α : Type} (f : α → α) :
    Except Problem α → Except Problem α → Prop
  | ok (a : α) : Alike margin f (.ok a) (.ok (f a))
  | error {p q : Problem} (h : p.Moved margin q) : Alike margin f (.error p) (.error q)

variable {margin : Nat → Nat}

/-- A problem at a column that is moved. -/
lemma Problem.moved_at (cause : Cause) (line column length : Nat) :
    (Problem.at cause line column length).Moved margin
      (.at cause line (column + margin line) length) where
  cause := rfl
  place := .some ⟨rfl, Nat.add_right_comm column (margin line) 1⟩

namespace Alike

variable {α β ι : Type} {f : α → α} {g : β → β}

/-- Checks that are alike one after another. -/
lemma bind {x y : Except Problem α} (h : Alike margin f x y) {k k' : α → Except Problem β}
    (hk : ∀ a, Alike margin g (k a) (k' (f a))) : Alike margin g (x >>= k) (y >>= k') := by
  cases h with
  | ok a => exact hk a
  | error hpq => exact .error hpq

/-- Checks of corresponding items in turn are alike, if each is. -/
lemma foldlM {R : ι → ι → Prop} {step : α → ι → Except Problem α}
    (hstep : ∀ a x y, R x y → Alike margin f (step a x) (step (f a) y)) {xs ys : List ι}
    (h : List.Forall₂ R xs ys) (a : α) :
    Alike margin f (xs.foldlM step a) (ys.foldlM step (f a)) := by
  induction h generalizing a with
  | nil => exact .ok a
  | cons hxy _ ih =>
    rw [List.foldlM_cons, List.foldlM_cons]
    exact (hstep a _ _ hxy).bind ih

/-- Of two checks that are alike, both succeed or none. -/
lemma eq_ok_iff {x y : Except Problem Unit} (h : Alike margin id x y) :
    y = .ok () ↔ x = .ok () := by
  cases h with
  | ok a => exact Iff.rfl
  | error _ => simp

/-- What the one of two checks finds that are alike, the other finds at the margin. -/
lemma exists_of_error {x y : Except Problem α} (h : Alike margin f x y) {q : Problem}
    (hy : y = .error q) : ∃ p, x = .error p ∧ p.Moved margin q := by
  cases h with
  | ok a => cases hy
  | error hpq =>
    cases hy
    exact ⟨_, rfl, hpq⟩

end Alike

/-! ## Brackets and blocks -/

/-- A bracket that is moved is nested in the same way. -/
lemma alike_nestStep (stack : List OpenBracket) (b : OpenBracket) :
    Alike margin (List.map (·.moved margin)) (nestStep stack b)
      (nestStep (stack.map (·.moved margin)) (b.moved margin)) := by
  have hbracket : (b.moved margin).bracket = b.bracket := rfl
  rw [nestStep.eq_def, nestStep.eq_def, hbracket]
  split
  · exact .ok (b :: stack)
  · cases stack with
    | nil => exact .error (Problem.moved_at _ b.line b.column 1)
    | cons top rest =>
      show Alike _ _ (if closes b.bracket top.bracket then _ else _)
        (if closes b.bracket top.bracket then _ else _)
      split
      · exact .ok rest
      · exact .error (Problem.moved_at _ b.line b.column 1)

/-- Open brackets that are moved are objected to in the same way. -/
lemma alike_nestEnd (stack : List OpenBracket) :
    Alike margin id (nestEnd stack) (nestEnd (stack.map (·.moved margin))) := by
  cases stack with
  | nil => exact .ok ()
  | cons top rest => exact .error (Problem.moved_at _ top.line top.column 1)

/-- Whether a statement has the same head and the same brackets as another one, moved by the margins
of their lines. -/
structure MovedStatement (margin : Nat → Nat) (s s' : Statement) : Prop where
  head : head? s' = (head? s).map (·.moved margin)
  brackets : bracketsAfter none s' = (bracketsAfter none s).map (·.moved margin)

lemma MovedStatement.alike_checkBrackets {s s' : Statement} (h : MovedStatement margin s s') :
    Alike margin id (checkBrackets s) (checkBrackets s') := by
  rw [checkBrackets, checkBrackets, checkBracketsFrom_eq, checkBracketsFrom_eq, h.brackets]
  have hbrackets : List.Forall₂ (fun b b' => b' = b.moved margin) (bracketsAfter none s)
      ((bracketsAfter none s).map (·.moved margin)) :=
    List.forall₂_map_right_iff.2 (List.forall₂_same.2 fun _ _ => rfl)
  -- no bracket is open at first, and the ones that are open in the end correspond
  refine (Alike.foldlM (f := List.map (·.moved margin)) ?_ hbrackets []).bind alike_nestEnd
  intro stack b b' hb
  rw [hb]
  exact alike_nestStep stack b

lemma MovedStatement.alike_blockStep {s s' : Statement} (h : MovedStatement margin s s')
    (kind : Text) (blocks : List Head) :
    Alike margin (List.map (·.moved margin)) (blockStep kind blocks s)
      (blockStep kind (blocks.map (·.moved margin)) s') := by
  rw [blockStep.eq_def, blockStep.eq_def, h.head]
  cases head? s with
  | none => exact .ok blocks
  | some head =>
    have hword : (head.moved margin).word = head.word := rfl
    simp only [Option.map_some, hword]
    split
    · exact .ok (head :: blocks)
    · split
      · cases blocks with
        | nil => exact .error (Problem.moved_at _ head.line head.column 3)
        | cons block rest => exact .ok rest
      · exact .ok blocks

lemma MovedStatement.alike_statementStep {s s' : Statement} (h : MovedStatement margin s s')
    (kind : Text) (blocks : List Head) :
    Alike margin (List.map (·.moved margin)) (statementStep kind blocks s)
      (statementStep kind (blocks.map (·.moved margin)) s') := by
  unfold statementStep
  cases isFlowchart kind with
  | false => exact h.alike_blockStep kind blocks
  | true => exact h.alike_checkBrackets.bind fun _ => h.alike_blockStep kind blocks

/-! ## Lines side by side -/

/-- Whether a scanned line is another one with blanks around it: it has the same number, its tokens
are framed ones, and it ends in the same mode. -/
structure ScannedLine.Aligned (margin : Nat → Nat) (l l' : ScannedLine) : Prop where
  number : l'.number = l.number
  text : l.text = Text.trim l'.text
  column : margin l.number = Text.margin l'.text
  tokens : Lexer.Framed (margin l.number) l.tokens l'.tokens
  mode : l'.mode = l.mode

/-- The scans of some lines and of their trimmed forms are aligned. -/
lemma forall₂_scanLines (mode : Mode) (number : Nat) (ls : List Text)
    (hmargin : ∀ i (hi : i < ls.length), margin (number + i) = Text.margin ls[i])
    (hls : ∀ l ∈ ls, '\n' ∉ l) :
    List.Forall₂ (ScannedLine.Aligned margin) (scanLines mode number (ls.map Text.trim))
      (scanLines mode number ls) := by
  induction ls generalizing mode number with
  | nil => exact .nil
  | cons line ls ih =>
    obtain ⟨hline, hls⟩ := List.forall_mem_cons.1 hls
    have hnumber : margin number = Text.margin line := hmargin 0 (Nat.zero_lt_succ ls.length)
    obtain ⟨front, back, heq, hlength, hfront, hback⟩ := Text.eq_append_trim_append line
    have hinner : '\n' ∉ Text.trim line ++ back := by
      intro hmem
      rw [heq] at hline
      exact hline (List.mem_append_right front hmem)
    obtain ⟨htokens, hmode⟩ := Lexer.framed_classify mode (Text.trim line) hfront hback hinner
    rw [← heq, hlength, ← hnumber] at htokens
    rw [← heq] at hmode
    rw [List.map_cons, scanLines, scanLines]
    dsimp only
    -- both scans go on in the same mode, so the rest of them is aligned as well
    rw [hmode]
    refine .cons ⟨rfl, rfl, hnumber, htokens, rfl⟩ (ih _ (number + 1) ?_ hls)
    -- the margin of each line below is that of the line after it in the longer list
    intro i hi
    have := hmargin (i + 1) (Nat.succ_lt_succ hi)
    rwa [List.getElem_cons_succ, Nat.add_left_comm, Nat.add_comm] at this

namespace ScannedLine.Aligned

variable {l l' : ScannedLine}

/-- Aligned lines give a statement the same head. -/
lemma head? (h : l.Aligned margin l') : l'.head? = l.head?.map (·.moved margin) := by
  rw [ScannedLine.head?, ScannedLine.head?, firstWord?_of_framed h.tokens, h.number,
    Option.map_map, Option.map_map]
  rfl

/-- Aligned lines have the same brackets. -/
lemma brackets (h : l.Aligned margin l') :
    l'.brackets = l.brackets.map (·.moved margin) := by
  have hlocated : l'.located = Structure.located l.number l'.tokens := by
    rw [ScannedLine.located, h.number]
    rfl
  rw [ScannedLine.brackets, hlocated]
  exact bracketsAfter_of_framed h.tokens

/-- Aligned lines have the same last quote. -/
lemma lastQuote? (h : l.Aligned margin l') :
    l'.lastQuote? = l.lastQuote?.map (·.moved (margin l.number)) := by
  rw [ScannedLine.lastQuote?, filter_quote_of_framed h.tokens, List.getLast?_map]
  rfl

/-- Aligned lines declare the same. -/
lemma declaredWord (h : l.Aligned margin l') :
    declaredWord l'.tokens l'.text = declaredWord l.tokens l.text := by
  obtain ⟨front, back, heq, -, hfront, hback⟩ := Text.eq_append_trim_append l'.text
  have hwords : (Text.words l'.text).headD [] = (Text.words l.text).headD [] := by
    conv_lhs => rw [heq, Text.headD_words_append hfront hback, ← h.text]
  rw [Structure.declaredWord, Structure.declaredWord, firstWord?_of_framed h.tokens, hwords]
  cases firstWord? l.tokens <;> rfl

end ScannedLine.Aligned

/-! ## Statements side by side -/

/-- Groups of corresponding lines correspond. -/
lemma forall₂_groups {R : ScannedLine → ScannedLine → Prop}
    (hmode : ∀ l l', R l l' → l'.mode = l.mode) {ls ls' : List ScannedLine}
    (h : List.Forall₂ R ls ls') :
    List.Forall₂ (List.Forall₂ R) (groups ls) (groups ls') := by
  induction h with
  | nil => exact .nil
  | @cons l l' ls ls' hl _ ih =>
    rw [groups, groups, hmode l l' hl]
    split
    · -- the line goes in front of the first group below it, if there is one
      generalize groups ls = gs at ih ⊢
      generalize groups ls' = gs' at ih ⊢
      cases ih with
      | nil => exact .nil
      | cons hg hgs => exact .cons (.cons hl hg) hgs
    · exact .cons (.cons hl .nil) ih

/-- A group of aligned lines makes up a statement that is moved. -/
lemma movedStatement_statementOf {g g' : List ScannedLine}
    (h : List.Forall₂ (ScannedLine.Aligned margin) g g') (hg : IsGroup g) (hg' : IsGroup g') :
    MovedStatement margin (statementOf g) (statementOf g') := by
  -- a group is read line by line, so it is enough that its lines have the same brackets
  have hbrackets : g'.flatMap ScannedLine.brackets =
      (g.flatMap ScannedLine.brackets).map (·.moved margin) := by
    clear hg hg'
    induction h with
    | nil => rfl
    | cons hl _ ih => rw [List.flatMap_cons, List.flatMap_cons, List.map_append, hl.brackets, ih]
  cases h with
  | nil => exact ⟨rfl, rfl⟩
  | cons hl _ =>
    refine ⟨?_, ?_⟩
    · rw [head?_statementOf hg, head?_statementOf hg', hl.head?]
    · rw [bracketsAfter_statementOf hg, bracketsAfter_statementOf hg', hbrackets]

/-- The statements of aligned scans are moved. -/
lemma forall₂_statements {mode mode' : Mode} {number number' : Nat} {ls ls' : List Text}
    (h : List.Forall₂ (ScannedLine.Aligned margin) (scanLines mode number ls)
      (scanLines mode' number' ls')) :
    List.Forall₂ (MovedStatement margin) ((groups (scanLines mode number ls)).map statementOf)
      ((groups (scanLines mode' number' ls')).map statementOf) := by
  have hgroups := forall₂_groups (fun _ _ hl => hl.mode) h
  rw [List.forall₂_map_left_iff, List.forall₂_map_right_iff, List.forall₂_iff_get]
  rw [List.forall₂_iff_get] at hgroups
  refine ⟨hgroups.1, ?_⟩
  intro i hi hi'
  have hg := isGroup_of_mem_groups (List.get_mem _ ⟨i, hi⟩)
  have hg' := isGroup_of_mem_groups (List.get_mem _ ⟨i, hi'⟩)
  exact movedStatement_statementOf (hgroups.2 i hi hi') hg hg'

/-! ## The end of a text -/

/-- The last ones of corresponding items correspond. -/
lemma rel_getLast? {α β : Type} {R : α → β → Prop} {xs : List α} {ys : List β}
    (h : List.Forall₂ R xs ys) : Option.Rel R xs.getLast? ys.getLast? := by
  rw [← List.forall₂_reverse_iff] at h
  rw [List.getLast?_eq_head?_reverse, List.getLast?_eq_head?_reverse]
  generalize xs.reverse = xs at h ⊢
  generalize ys.reverse = ys at h ⊢
  cases h with
  | nil => exact .none
  | cons hxy _ => exact .some hxy

/-- Aligned lines leave the text in the same mode. -/
lemma finalMode_of_aligned {ls ls' : List ScannedLine}
    (h : List.Forall₂ (ScannedLine.Aligned margin) ls ls') : finalMode ls' = finalMode ls := by
  have hlast := rel_getLast? h
  rw [finalMode, finalMode]
  generalize ls.getLast? = last at hlast ⊢
  generalize ls'.getLast? = last' at hlast ⊢
  cases hlast with
  | none => rfl
  | some hl => simp [hl.mode]

/-- The quotes that are left open in aligned lines correspond. -/
lemma openQuote?_of_aligned {ls ls' : List ScannedLine}
    (h : List.Forall₂ (ScannedLine.Aligned margin) ls ls') :
    Option.Rel (fun q q' => q.1.Aligned margin q'.1 ∧ q'.2 = q.2.moved (margin q.1.number))
      (openQuote? ls) (openQuote? ls') := by
  rw [openQuote?, openQuote?]
  refine rel_getLast? (List.rel_filterMap (R := ScannedLine.Aligned margin) ?_ h)
  intro l l' hl
  rw [ScannedLine.openingQuote?, ScannedLine.openingQuote?, hl.mode, hl.lastQuote?]
  split
  · cases l.lastQuote? with
    | none => exact .none
    | some quote => exact .some ⟨hl, rfl⟩
  · exact .none

/-- What is left open at the end of aligned lines is objected to in the same way. -/
lemma alike_checkEnd {ls ls' : List ScannedLine}
    (h : List.Forall₂ (ScannedLine.Aligned margin) ls ls') (blocks : List Head) :
    Alike margin id (checkEnd ls blocks) (checkEnd ls' (blocks.map (·.moved margin))) := by
  unfold checkEnd
  rw [finalMode_of_aligned h]
  split
  · refine .error ⟨rfl, ?_⟩
    have hquote := openQuote?_of_aligned h
    generalize openQuote? ls = quote at hquote ⊢
    generalize openQuote? ls' = quote' at hquote ⊢
    cases hquote with
    | none => exact .none
    | @some q q' hq =>
      obtain ⟨hl, hq⟩ := hq
      refine .some ⟨hl.number, ?_⟩
      show q'.2.start + 1 = q.2.start + 1 + margin q.1.number
      rw [hq, Token.moved_start]
      omega
  · cases blocks with
    | nil => exact .ok ()
    | cons block rest => exact .error (Problem.moved_at _ block.line block.column block.word.length)

/-! ## The whole text -/

/-- Aligned scans are objected to in the same way. -/
lemma alike_checkLines {mode mode' : Mode} {number number' : Nat} {line line' : Text}
    {ls ls' : List Text}
    (h : List.Forall₂ (ScannedLine.Aligned margin) (scanLines mode number (line :: ls))
      (scanLines mode' number' (line' :: ls'))) :
    Alike margin id (checkLines (scanLines mode number (line :: ls)))
      (checkLines (scanLines mode' number' (line' :: ls'))) := by
  rw [scanLines, scanLines] at h ⊢
  dsimp only at h ⊢
  obtain ⟨hl, hls⟩ := List.forall₂_cons.1 h
  have hkind := hl.declaredWord
  dsimp only at hkind
  rw [checkLines, checkLines]
  dsimp only
  rw [hkind]
  cases Keyword.isDiagramKind (declaredWord (Lexer.classify mode line).1 line) with
  | false =>
    -- an unknown kind is marked from the first character of the line that is not blank
    refine .error ?_
    have hcolumn : Text.margin line' = 0 + margin number := by
      rw [Nat.zero_add]
      exact hl.column.symm
    have htrimmed : Text.margin line = 0 := by
      rw [show line = Text.trim line' from hl.text, Text.margin_trim]
    rw [hcolumn, htrimmed, show number' = number from hl.number]
    exact Problem.moved_at _ number 0 _
  | true =>
    simp only [Bool.not_true, Bool.false_eq_true, if_false, foldlM_statements]
    refine (Alike.foldlM (f := List.map (·.moved margin)) ?_ (forall₂_statements hls) []).bind ?_
    · intro blocks s s' hs
      exact hs.alike_statementStep _ blocks
    · exact alike_checkEnd (.cons hl hls)

/-- The text with its lines trimmed. -/
def trimLines (t : Text) : Text := Text.joinLines ((Text.lines t).map Text.trim)

lemma lines_trimLines (t : Text) : Text.lines (trimLines t) = (Text.lines t).map Text.trim := by
  apply Text.lines_joinLines
  · simp [Text.lines_ne_nil]
  · intro l hl
    obtain ⟨line, hline, rfl⟩ := List.mem_map.1 hl
    exact Text.not_mem_trim (Text.not_mem_of_mem_lines hline)

/-- The declaration among trimmed lines is the trimmed declaration. -/
lemma declarationFrom?_map_trim (inFrontMatter : Bool) (number : Nat) (ls : List Text) :
    declarationFrom? inFrontMatter number (ls.map Text.trim) =
      (declarationFrom? inFrontMatter number ls).map fun d =>
        ⟨d.number, Text.trim d.line, d.rest.map Text.trim⟩ := by
  induction ls generalizing inFrontMatter number with
  | nil => rfl
  | cons line ls ih =>
    rw [List.map_cons, declarationFrom?, declarationFrom?, Text.trim_trim, ih, ih]
    split
    · rfl
    · split <;> rfl

/-- **Blanks around lines.** The check of a text comes to the same as that of its trimmed lines. -/
theorem alike_check_trimLines (t : Text) :
    Alike (fun number => Text.margin (Text.lineAt t number)) id (check (trimLines t))
      (check t) := by
  rw [check, check, declaration?, declaration?, lines_trimLines, declarationFrom?_map_trim]
  cases hd : declarationFrom? false 1 (Text.lines t) with
  | none => exact .error ⟨rfl, .none⟩
  | some d =>
    obtain ⟨before, hlines, hnumber, -⟩ :=
      (declarationFrom?_eq_some_iff false 1 (Text.lines t) d).1 hd
    refine alike_checkLines (forall₂_scanLines .root d.number (d.line :: d.rest) ?_ ?_)
    · intro i hi
      have hindex : d.number + i - 1 = before.length + i := by omega
      rw [Text.lineAt, hlines, hindex, List.getD_eq_getElem?_getD,
        List.getElem?_append_right (Nat.le_add_right before.length i), Nat.add_sub_cancel_left,
        List.getElem?_eq_getElem hi, Option.getD_some]
    · intro l hl
      apply Text.not_mem_of_mem_lines (t := t)
      rw [hlines]
      exact List.mem_append_right before hl

end Mermaid.Structure
