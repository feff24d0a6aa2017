import Mermaid.Proofs.Lexer.Comments
import Mermaid.Proofs.Structure.Acceptance
import Mermaid.Proofs.Structure.Reading
import Mermaid.Proofs.Structure.Renumbering

/-!
# Lines that the structural check passes over

A blank line or a comment may be inserted anywhere but inside a string. The check of the longer text
comes to the same, with the number of each line below moved on by one.

Above the declaration such a line is skipped. Below it, the line makes up a statement of its own,
which has no bracket and no head; so it leaves the open brackets, the open blocks and the last quote
as they are.
-/

namespace Mermaid

/-- The text with a line inserted below its first `n` lines. -/
def Text.insertLine (n : Nat) (line t : Text) : Text :=
  joinLines ((lines t).take n ++ line :: (lines t).drop n)

lemma Text.lines_insertLine (n : Nat) {line : Text} (h : '\n' ∉ line) (t : Text) :
    lines (insertLine n line t) = (lines t).take n ++ line :: (lines t).drop n := by
  apply lines_joinLines
  · simp
  · intro l hl
    rcases List.mem_append.1 hl with habove | hbelow
    · exact not_mem_of_mem_lines (List.mem_of_mem_take habove)
    · rcases List.mem_cons.1 hbelow with rfl | hbelow
      · exact h
      · exact not_mem_of_mem_lines (List.mem_of_mem_drop hbelow)

namespace Structure

/-- The number that a line has after another one is inserted below the first `n` lines. -/
def lineBelow (n number : Nat) : Nat := if number ≤ n then number else number + 1

lemma lineBelow_injective (n : Nat) : (lineBelow n).Injective := by
  intro a b h
  unfold lineBelow at h
  split at h <;> split at h <;> omega

/-- The mode behind some lines that start in a mode. -/
def modeAfter (mode : Mode) (ls : List Text) : Mode :=
  ls.foldl (fun mode line => (Lexer.classify mode line).2) mode

/-- The mode that the check is in below some lines of a text: it lexes them from the declaration
on. -/
def modeBelow (above : List Text) : Mode :=
  match declarationFrom? false 1 above with
  | none => .root
  | some d => modeAfter .root (d.line :: d.rest)

/-! ## Lines in two parts -/

lemma modeAfter_concat (mode : Mode) (ls : List Text) (line : Text) :
    modeAfter mode (ls ++ [line]) = (Lexer.classify (modeAfter mode ls) line).2 := by
  rw [modeAfter, List.foldl_append]
  rfl

lemma scanLines_append (mode : Mode) (number : Nat) (us vs : List Text) :
    scanLines mode number (us ++ vs) =
      scanLines mode number us ++ scanLines (modeAfter mode us) (number + us.length) vs := by
  induction us generalizing mode number with
  | nil => rfl
  | cons u us ih =>
    rw [List.cons_append, scanLines, scanLines]
    dsimp only
    rw [ih, List.length_cons, ← Nat.add_assoc, Nat.add_right_comm]
    rfl

lemma getLast?_scanLines (mode : Mode) (number : Nat) (ls : List Text) :
    ((scanLines mode number ls).getLast?.map ScannedLine.mode).getD mode = modeAfter mode ls := by
  induction ls generalizing mode number with
  | nil => rfl
  | cons l ls ih =>
    have hrest := ih (Lexer.classify mode l).2 (number + 1)
    show _ = modeAfter (Lexer.classify mode l).2 ls
    rw [scanLines, ← hrest]
    dsimp only
    rw [List.getLast?_cons]
    cases (scanLines (Lexer.classify mode l).2 (number + 1) ls).getLast? <;> rfl

/-- Some lines have the same scan under other numbers, but for the numbers. -/
lemma scanLines_renumbered {f : Nat → Nat} (mode : Mode) {number number' : Nat} (ls : List Text)
    (hf : ∀ i < ls.length, f (number + i) = number' + i) :
    (scanLines mode number ls).map (ScannedLine.renumbered f) = scanLines mode number' ls := by
  induction ls generalizing mode number number' with
  | nil => rfl
  | cons l ls ih =>
    have hfirst : f number = number' := hf 0 (Nat.succ_pos _)
    have hrest : ∀ i < ls.length, f (number + 1 + i) = number' + 1 + i := by
      intro i hi
      have := hf (i + 1) (Nat.succ_lt_succ hi)
      rw [Nat.add_right_comm number 1 i, Nat.add_right_comm number' 1 i]
      exact this
    rw [scanLines, scanLines]
    dsimp only
    rw [List.map_cons, ih _ hrest, ScannedLine.renumbered, hfirst]

/-! ## Idle lines -/

/-- Whether a line has no part in a diagram: it has neither a first word nor a bracket, and no
string is open behind it. -/
structure ScannedLine.IsIdle (l : ScannedLine) : Prop where
  word : firstWord? l.tokens = none
  brackets : l.brackets = []
  mode : l.mode = .root

/-- Outside strings, what a line that may be skipped has between its blanks is a comment or
nothing. -/
lemma classify_of_isSkippable {u : Text} (hu : '\n' ∉ u) (hskip : isSkippable u = true) :
    Lexer.classify .root u = (Lexer.commentAt 0 u, .root) := by
  rw [Lexer.classify]
  cases u with
  | nil => rw [Lexer.classifyFrom, Lexer.commentAt]
  | cons c cs =>
    have hcomment : Lexer.comment (c :: cs) = c :: cs := by
      rw [Lexer.comment_eq hu]
      exact if_pos hskip
    have hlexeme : Lexer.lexeme? .root (c :: cs) = some ⟨.comment, c :: cs, .root⟩ := by
      simp only [Lexer.lexeme?, Lexer.rootLexeme?, hcomment]
    rw [Lexer.classifyFrom_of_ne_nil 0 .root (List.cons_ne_nil c cs),
      Lexer.piece_of_lexeme? .root hlexeme, List.drop_length, Lexer.classifyFrom, Lexer.commentAt]

/-- A blank line and a comment are idle outside strings. -/
lemma isIdle_of_isSkippable {line : Text} (hline : '\n' ∉ line)
    (hskip : isSkippable (Text.trim line) = true) (number : Nat) :
    ScannedLine.IsIdle ⟨number, line, (Lexer.classify .root line).1,
      (Lexer.classify .root line).2⟩ := by
  obtain ⟨front, back, heq, -, hfront, hback⟩ := Text.eq_append_trim_append line
  have hinner : '\n' ∉ Text.trim line ++ back := by
    intro hmem
    rw [heq] at hline
    exact hline (List.mem_append_right front hmem)
  have htrimmed := classify_of_isSkippable (fun h => hinner (List.mem_append_left back h)) hskip
  -- blanks around a line do not matter to its first word, its brackets and the mode behind it
  obtain ⟨hframed, hmode⟩ := Lexer.framed_classify .root (Text.trim line) hfront hback hinner
  rw [← heq, htrimmed] at hframed hmode
  refine ⟨?_, ?_, hmode⟩
  · show firstWord? (Lexer.classify .root line).1 = none
    rw [firstWord?_of_framed hframed]
    cases hu : Text.trim line with
    | nil => rfl
    | cons c cs =>
      have hblank : Text.isBlankText (c :: cs) = false := by
        rw [Text.isBlankText_cons, Text.isBlank_of_trim_eq_cons hu, Bool.false_and]
      rw [Lexer.commentAt, firstWord?, if_neg (by simp [Token.isWord]), if_neg (by simp [hblank])]
      rfl
  · have hbrackets := @bracketsAfter_of_framed (fun _ => front.length) number _ _ hframed
    cases hu : Text.trim line <;> rw [hu] at hbrackets <;> exact hbrackets

/-- An idle line is a statement that nothing comes of. -/
lemma statementStep_of_isIdle {x : ScannedLine} (hx : x.IsIdle) (kind : Text)
    (blocks : List Head) : statementStep kind blocks (statementOf [x]) = .ok blocks := by
  have hgroup : IsGroup [x] := ⟨List.pairwise_singleton _ x, by simp⟩
  have hbrackets : checkBrackets (statementOf [x]) = .ok () := by
    rw [checkBrackets, checkBracketsFrom_eq, bracketsAfter_statementOf hgroup]
    simp only [List.flatMap_cons, hx.brackets]
    rfl
  have hhead : head? (statementOf [x]) = none := by
    rw [head?_statementOf hgroup, ScannedLine.head?, hx.word]
    rfl
  rw [statementStep_eq_ok_iff, blockStep.eq_def, hhead]
  exact ⟨fun _ => hbrackets, rfl⟩

/-- An idle line does not change how some lines end, if no string is open above it. -/
lemma checkEnd_of_isIdle {x : ScannedLine} (hx : x.IsIdle) {us : List ScannedLine}
    (hmode : finalMode us = .root) (vs : List ScannedLine) (blocks : List Head) :
    checkEnd (us ++ x :: vs) blocks = checkEnd (us ++ vs) blocks := by
  have hfinal : finalMode (us ++ x :: vs) = finalMode (us ++ vs) := by
    rw [finalMode_append, finalMode_append, hmode, List.getLast?_cons]
    cases vs.getLast? with
    | none => exact hx.mode
    | some last => rfl
  have hquote : openQuote? (us ++ x :: vs) = openQuote? (us ++ vs) := by
    have hnone : x.openingQuote? = none := by
      rw [ScannedLine.openingQuote?, hx.mode, if_neg (by simp)]
    rw [openQuote?, openQuote?, List.filterMap_append, List.filterMap_append,
      List.filterMap_cons_none hnone]
  unfold checkEnd
  rw [hfinal, hquote]

/-- An idle line among the lines of a diagram does not change what is objected to. -/
lemma checkLines_of_isIdle {x : ScannedLine} (hx : x.IsIdle) {us : List ScannedLine}
    (hne : us ≠ []) (hmode : finalMode us = .root) (vs : List ScannedLine) :
    checkLines (us ++ x :: vs) = checkLines (us ++ vs) := by
  obtain ⟨first, us, rfl⟩ := List.exists_cons_of_ne_nil hne
  rw [List.cons_append, List.cons_append, checkLines, checkLines]
  have htail := finalMode_tail hmode
  have hgroups : groups (us ++ x :: vs) = groups us ++ [x] :: groups vs := by
    rw [groups_append htail, groups, if_neg (by simp [hx.mode])]
  have hstatements : ∀ kind, (statements (us ++ x :: vs)).foldlM (statementStep kind) [] =
      (statements (us ++ vs)).foldlM (statementStep kind) [] := by
    intro kind
    rw [foldlM_statements, foldlM_statements, hgroups, groups_append htail, List.map_append,
      List.map_append, List.map_cons, List.foldlM_append, List.foldlM_append]
    congr 1
    ext1 blocks
    rw [List.foldlM_cons, statementStep_of_isIdle hx]
    rfl
  simp only [hstatements, ← List.cons_append, checkEnd_of_isIdle hx hmode]

/-! ## The mode of the check -/

/-- From the declaration on the check lexes each line in the mode that it is in below the lines
above, and is then in the mode behind the line. -/
lemma modeBelow_concat (above : List Text) (line : Text) :
    modeBelow (above ++ [line]) =
      if (declarationFrom? false 1 (above ++ [line])).isSome
        then (Lexer.classify (modeBelow above) line).2 else .root := by
  unfold modeBelow
  cases hd : declarationFrom? false 1 above with
  | some d =>
    rw [declarationFrom?_append_of_some hd]
    exact modeAfter_concat .root (d.line :: d.rest) line
  | none =>
    obtain ⟨within, hwithin⟩ := declarationFrom?_append_of_none hd
    rw [hwithin]
    cases hline : declarationFrom? within (1 + above.length) [line] with
    | none => rfl
    | some d =>
      -- the only line below is the declaration
      obtain ⟨before, hbefore, -⟩ := (declarationFrom?_eq_some_iff _ _ _ d).1 hline
      have hlines : d.line :: d.rest = [line] := by
        cases before with
        | nil => exact hbefore.symm
        | cons u us => simp at hbefore
      show modeAfter .root (d.line :: d.rest) = _
      rw [hlines]
      rfl

/-! ## The whole text -/

/-- Below the declaration an idle line moves the ones below it on by one, and does nothing else. -/
lemma checkLines_insert {number n : Nat} {us : List Text} (hne : us ≠ [])
    (hnumber : number + us.length = n + 1) (hmode : modeAfter .root us = .root) {line : Text}
    (hline : '\n' ∉ line) (hskip : isSkippable (Text.trim line) = true) (below : List Text) :
    checkLines (scanLines .root number (us ++ line :: below)) =
      (checkLines (scanLines .root number (us ++ below))).mapError
        (Problem.renumbered (lineBelow n)) := by
  have hidle := isIdle_of_isSkippable hline hskip (n + 1)
  have habove : (scanLines .root number us).map (ScannedLine.renumbered (lineBelow n)) =
      scanLines .root number us := by
    apply scanLines_renumbered
    intro i hi
    exact if_pos (by omega)
  have hbelow : (scanLines .root (n + 1) below).map (ScannedLine.renumbered (lineBelow n)) =
      scanLines .root (n + 1 + 1) below := by
    apply scanLines_renumbered
    intro i _
    rw [lineBelow, if_neg (by omega)]
    omega
  have hfinal : finalMode (scanLines .root number us) = .root := by
    rw [finalMode, getLast?_scanLines, hmode]
  have hscan : scanLines .root number us ≠ [] := by
    obtain ⟨u, us, rfl⟩ := List.exists_cons_of_ne_nil hne
    rw [scanLines]
    exact List.cons_ne_nil _ _
  rw [← checkLines_renumbered (lineBelow_injective n), scanLines_append, scanLines_append,
    List.map_append, hnumber, hmode, habove, hbelow, scanLines]
  dsimp only
  rw [checkLines_of_isIdle hidle hscan hfinal,
    show (Lexer.classify .root line).2 = .root from hidle.mode]

/-- **Insertion.** A blank line or a comment that is inserted where no string is open leaves what
the check comes to as it is, but for the numbers of the lines below. -/
theorem check_insertLine {t line : Text} {n : Nat} (hn : n ≤ (Text.lines t).length)
    (hline : '\n' ∉ line) (hidle : Text.isBlankText line = true ∨ ['%', '%'] <+: Text.trim line)
    (hmode : modeBelow ((Text.lines t).take n) = .root) :
    check (Text.insertLine n line t) = (check t).mapError (Problem.renumbered (lineBelow n)) := by
  have hskip := (isSkippable_trim_iff line).2 hidle
  have hlength : ((Text.lines t).take n).length = n := List.length_take_of_le hn
  rw [check, check, declaration?, declaration?, Text.lines_insertLine n hline]
  conv_rhs => rw [← List.take_append_drop n (Text.lines t)]
  generalize (Text.lines t).take n = above at hmode hlength ⊢
  generalize (Text.lines t).drop n = below
  cases hd : declarationFrom? false 1 above with
  | some d =>
    rw [modeBelow, hd] at hmode
    rw [declarationFrom?_append_of_some hd, declarationFrom?_append_of_some hd]
    obtain ⟨before, habove, hnumber, -⟩ := (declarationFrom?_eq_some_iff false 1 above d).1 hd
    have hstop : d.number + (d.line :: d.rest).length = n + 1 := by
      rw [hnumber, ← hlength, habove, List.length_append]
      omega
    exact checkLines_insert (List.cons_ne_nil _ _) hstop hmode hline hskip below
  | none =>
    obtain ⟨within, hwithin⟩ := declarationFrom?_append_of_none hd
    rw [hwithin, hwithin, hlength, declarationFrom?_of_isSkippable within _ hskip,
      declarationFrom?_succ]
    cases hbelow : declarationFrom? within (1 + n) below with
    | none => rfl
    | some d =>
      -- the lines from the declaration on are the same, further down by one
      obtain ⟨before, -, hnumber, -⟩ :=
        (declarationFrom?_eq_some_iff within (1 + n) below d).1 hbelow
      show checkLines _ = (checkLines _).mapError _
      rw [← checkLines_renumbered (lineBelow_injective n), scanLines_renumbered]
      intro i _
      show lineBelow n (d.number + i) = d.number + 1 + i
      rw [lineBelow, if_neg (by omega)]
      omega

/-- A comment with a quote and a bracket in it may stand above a statement, and moves the bracket
that is left open there. -/
theorem check_insertLine_comment :
    check (Text.insertLine 1 " %% \"[end".toList "graph TD\nA[x".toList) =
      .error (.at (.unclosed '[') 3 1 1) := by
  have hcheck : check "graph TD\nA[x".toList = .error (.at (.unclosed '[') 2 1 1) := by
    decide +kernel
  rw [check_insertLine (by decide) (by decide) (.inr (by decide)) (by decide +kernel), hcheck]
  rfl

end Structure

end Mermaid
