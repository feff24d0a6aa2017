import Mermaid.Proofs.Lexer.Comments
import Mermaid.Proofs.Structure.Openings
import Mermaid.Proofs.Structure.Quotes

/-!
# Brackets read off the characters

The bracket check works on tokens, but what it asks for can be told from the characters outside
strings and comments: a round, square or curly bracket among them is always a token of its own. A
`>` is one more bracket directly after a word, and part of an arrow everywhere else.

`Structure.check_of_hasNestedBrackets` says that a diagram in which the brackets are nested is not
objected to for a bracket, wherever its strings run over several lines.
-/

namespace Mermaid

open Lexer (Scans)

namespace Structure

/-- Whether a character is a round, square or curly bracket. -/
def isPaired (c : Char) : Bool := ['(', ')', '[', ']', '\x7b', '\x7d'].contains c

/-- Whether a token belongs to neither a string nor a comment. -/
def isCode (t : Token) : Bool := t.kind ≠ .string && t.kind ≠ .comment

/-- The characters of some tokens that stand outside strings and comments. -/
def codeOf (ts : List Token) : Text := textOf (ts.filter isCode)

/-- The round, square and curly brackets of some lines, outside strings and comments. -/
def pairedBrackets (g : List ScannedLine) : List Char :=
  (codeOf (g.flatMap ScannedLine.tokens)).filter isPaired

/-- Whether no `>` stands directly after a word among some tokens. -/
def HasNoFlag (ts : List Token) : Prop :=
  ts.IsChain fun u v => ¬(u.isWord = true ∧ v.kind = .delimiter ∧ v.text = ['>'])

/-- Whether the brackets of a diagram are nested in each statement, that of the declaration among
them, and in the declaration line by itself where a statement starts with it; below the declaration
line no `>` stands directly after a word. -/
structure Declaration.HasNestedBrackets (d : Declaration) : Prop where
  statements : ∀ g ∈ groups d.scan, Nested (pairedBrackets g)
  declaration : ∀ g ∈ (groups d.scan).head?, Nested (pairedBrackets (g.take 1))
  noFlag : ∀ g ∈ groups d.scan.tail, HasNoFlag (g.flatMap ScannedLine.tokens)

/-! ## Brackets are tokens -/

/-- The bracket that a token is, if it is a round, square or curly one. -/
def pairedOf? (t : Token) : Option Char := (bracketOf? t).filter isPaired

lemma filter_isPaired_eq_nil {u : Text} (h : ∀ c, isPaired c = true → c ∉ u) :
    u.filter isPaired = [] := by
  rw [List.filter_eq_nil_iff]
  intro c hc hpaired
  exact h c hpaired hc

/-- A bracket is a delimiter, and stands in no word. -/
lemma delimiter_of_isPaired {c : Char} (hc : isPaired c = true) :
    [c] ∈ Lexer.delimiterTexts ∧ ∀ w, Lexer.IsWord w → c ∉ w := by
  have hall : ∀ c ∈ ['(', ')', '[', ']', '\x7b', '\x7d'], [c] ∈ Lexer.delimiterTexts ∧
      Lexer.isWordStart c = false ∧ Lexer.isWordPart c = false ∧ c ≠ '-' := by
    simp only [List.forall_mem_cons, List.not_mem_nil, false_imp_iff, implies_true, and_true]
    decide +kernel
  obtain ⟨hdelimiter, hstart, hpart, hhyphen⟩ := hall c (List.contains_iff_mem.1 hc)
  exact ⟨hdelimiter, fun w hw => hw.not_mem hstart hpart hhyphen⟩

/-- A token that is no delimiter is no bracket. -/
lemma pairedOf?_of_ne {t : Token} (h : t.kind ≠ .delimiter) : pairedOf? t = none := by
  unfold pairedOf? bracketOf?
  split
  · next hkind _ => exact absurd hkind h
  · rfl

/-- Outside strings and comments the brackets of a token are the bracket that it is. -/
lemma filter_isPaired_text {column : Nat} {mode final : Mode} {line : Text} {ts : List Token}
    (h : Scans column mode line ts final) {t : Token} (ht : t ∈ ts) (hcode : isCode t = true) :
    t.text.filter isPaired = (pairedOf? t).toList := by
  rcases h.mem_cases ht with ⟨_, w, rest, kind, next, rfl, htakes⟩ | ⟨hkind, rest, hnone⟩ | hkind
  · cases htakes with
    | comment _ => cases hcode
    | quote => cases hcode
    | delimiter hw =>
      have hall : ∀ w ∈ Lexer.delimiterTexts,
          w.filter isPaired = (pairedOf? ⟨0, w, .delimiter⟩).toList := by decide
      exact hall w hw
    | word hw _ =>
      rw [pairedOf?_of_ne (by dsimp only; split <;> simp),
        filter_isPaired_eq_nil fun c hc => (delimiter_of_isPaired hc).2 w hw]
      rfl
  · rw [pairedOf?_of_ne (by simp [hkind])]
    refine filter_isPaired_eq_nil fun c hc => ?_
    exact hnone.not_mem fun _ => ⟨_, _, .delimiter (delimiter_of_isPaired hc).1⟩
  · rw [isCode, hkind] at hcode
    cases hcode

/-- The brackets outside strings and comments are the tokens that are brackets. -/
lemma filter_isPaired_codeOf {ts : List Token}
    (h : ∀ t ∈ ts, isCode t = true → t.text.filter isPaired = (pairedOf? t).toList) :
    (codeOf ts).filter isPaired = ts.filterMap pairedOf? := by
  induction ts with
  | nil => rfl
  | cons t ts ih =>
    obtain ⟨ht, hts⟩ := List.forall_mem_cons.1 h
    rw [codeOf] at ih ⊢
    cases hcode : isCode t with
    | true =>
      rw [List.filter_cons_of_pos hcode, textOf_cons, List.filter_append, ih hts, ht hcode]
      cases hpaired : pairedOf? t with
      | none => rw [List.filterMap_cons_none hpaired]; rfl
      | some c => rw [List.filterMap_cons_some hpaired]; rfl
    | false =>
      have hkind : t.kind ≠ .delimiter := by
        intro hkind
        rw [isCode, hkind] at hcode
        cases hcode
      rw [List.filter_cons_of_neg (by simp [hcode]), ih hts,
        List.filterMap_cons_none (pairedOf?_of_ne hkind)]

/-- A delimiter is a bracket of the check when it is a round, square or curly bracket, unless it is
a `>` directly after a word. -/
lemma isBracket_eq {previous : Option Token} {c : Char}
    (h : c = '>' → previous.any Token.isWord = false) :
    (opensAfter previous c || (partner? c).isSome) = isPaired c := by
  by_cases hflag : c = '>'
  · rw [opensAfter, h hflag, hflag]
    rfl
  · rw [opensAfter, decide_eq_false hflag, Bool.false_and, Bool.or_false]
    unfold partner? isPaired
    split
    · rfl
    · rfl
    · rfl
    · next hround hsquare hcurly =>
      have hclosing : c ≠ ')' ∧ c ≠ ']' ∧ c ≠ '\x7d' := ⟨hround, hsquare, hcurly⟩
      simp [hclosing.1, hclosing.2.1, hclosing.2.2]

/-- Where no `>` stands directly after a word, the bracket check reads the round, square and curly
brackets. -/
lemma map_bracketsAfter (previous : Option Token) (s : Statement)
    (h : HasNoFlag (previous.toList ++ s.map LocatedToken.token)) :
    (bracketsAfter previous s).map OpenBracket.bracket =
      (s.map LocatedToken.token).filterMap pairedOf? := by
  induction s generalizing previous with
  | nil => rfl
  | cons u s ih =>
    have hrest : HasNoFlag ((some u.token).toList ++ s.map LocatedToken.token) := by
      cases previous with
      | none => exact h
      | some p => exact h.tail
    have hhere : (bracketAt? previous u).map OpenBracket.bracket = pairedOf? u.token := by
      rw [bracketAt?, pairedOf?]
      cases hc : bracketOf? u.token with
      | none => rfl
      | some c =>
        have hflag : c = '>' → previous.any Token.isWord = false := by
          rintro rfl
          cases previous with
          | none => rfl
          | some p =>
            obtain ⟨hkind, htext⟩ := bracketOf?_eq_some_iff.1 hc
            rw [Option.any_some, ← Bool.not_eq_true]
            exact fun hword => h.rel ⟨hword, hkind, htext⟩
        rw [Option.bind_some, isBracket_eq hflag, Option.filter_some]
        split <;> rfl
    rw [bracketsAfter, List.map_append, ih _ hrest, List.map_cons]
    cases hpaired : pairedOf? u.token with
    | none =>
      rw [hpaired, Option.map_eq_none_iff] at hhere
      rw [hhere, List.filterMap_cons_none hpaired]
      rfl
    | some c =>
      rw [hpaired, Option.map_eq_some_iff] at hhere
      obtain ⟨b, hb, rfl⟩ := hhere
      rw [hb, List.filterMap_cons_some hpaired]
      rfl

/-! ## Parts of nested words -/

/-- Brackets form a nested word when nothing is left open behind them. -/
lemma nested_iff_foldlM (bs : List OpenBracket) :
    Nested (bs.map OpenBracket.bracket) ↔ bs.foldlM nestStep [] = .ok [] := by
  constructor
  · intro h
    exact foldlM_of_nested h [] bs rfl
  · intro h
    cases unwinds_of_foldlM h with
    | done hu => exact hu

/-- Some brackets at the same place. -/
def anywhere (w : List Char) : List OpenBracket := w.map fun c => ⟨c, 0, 0⟩

@[simp] lemma map_bracket_anywhere (w : List Char) : (anywhere w).map OpenBracket.bracket = w := by
  rw [anywhere, List.map_map]
  exact List.map_id w

/-- Whether nothing is left open behind a word of brackets. -/
def leavesNothing (w : List Char) : Bool :=
  match (anywhere w).foldlM nestStep [] with
  | .ok [] => true
  | _ => false

lemma leavesNothing_iff (w : List Char) : leavesNothing w = true ↔ Nested w := by
  have hnested := nested_iff_foldlM (anywhere w)
  rw [map_bracket_anywhere] at hnested
  rw [hnested, leavesNothing]
  cases (anywhere w).foldlM nestStep [] with
  | error p => simp
  | ok stack => cases stack <;> simp

instance : DecidablePred Nested := fun w => decidable_of_iff _ (leavesNothing_iff w)

instance : DecidablePred HasNoFlag := fun ts =>
  inferInstanceAs (Decidable (ts.IsChain fun u v =>
    ¬(u.isWord = true ∧ v.kind = .delimiter ∧ v.text = ['>'])))

/-- A nested word goes on with a nested word behind each prefix that is nested. -/
lemma Nested.of_append {u v : List Char} (huv : Nested (u ++ v)) (hu : Nested u) : Nested v := by
  have hall := (nested_iff_foldlM (anywhere (u ++ v))).1 (by rwa [map_bracket_anywhere])
  have hfront := (nested_iff_foldlM (anywhere u)).1 (by rwa [map_bracket_anywhere])
  rw [anywhere, List.map_append, ← anywhere, ← anywhere, List.foldlM_append, hfront] at hall
  rw [← map_bracket_anywhere v]
  exact (nested_iff_foldlM _).2 hall

/-! ## Statements -/

/-- The tokens of the lines of a scan are read from left to right. -/
lemma filter_isPaired_of_isScan {ls : List ScannedLine} (hls : IsScan ls) {l : ScannedLine}
    (hl : l ∈ ls) :
    ∀ t ∈ l.tokens, isCode t = true → t.text.filter isPaired = (pairedOf? t).toList := by
  obtain ⟨above, below, hsplit⟩ := List.append_of_mem hl
  have hscans := Lexer.scans_classifyFrom 0 (finalMode above) l.text
  rw [← Lexer.classify, hls above l below hsplit] at hscans
  exact fun t => filter_isPaired_text hscans

lemma pairedBrackets_append (g g' : List ScannedLine) :
    pairedBrackets (g ++ g') = pairedBrackets g ++ pairedBrackets g' := by
  rw [pairedBrackets, codeOf, List.flatMap_append, List.filter_append, textOf_append,
    List.filter_append, ← codeOf, ← codeOf, ← pairedBrackets, ← pairedBrackets]

lemma map_token_statementOf (g : List ScannedLine) :
    (statementOf g).map LocatedToken.token = g.flatMap ScannedLine.tokens := by
  have hline : ∀ l : ScannedLine, l.located.map LocatedToken.token = l.tokens := by
    intro l
    rw [ScannedLine.located, List.map_map]
    exact List.map_id l.tokens
  rw [statementOf, List.map_flatMap]
  simp only [hline]

/-- The bracket check accepts lines with nested brackets, if no `>` stands directly after a word. -/
lemma checkBrackets_of_nested {ls g : List ScannedLine} (hls : IsScan ls) (hg : ∀ l ∈ g, l ∈ ls)
    (hnested : Nested (pairedBrackets g)) (hflag : HasNoFlag (g.flatMap ScannedLine.tokens)) :
    checkBrackets (statementOf g) = .ok () := by
  have hword : bracketWord (statementOf g) = pairedBrackets g := by
    have hflag' : HasNoFlag ((statementOf g).map LocatedToken.token) := by
      rwa [map_token_statementOf]
    rw [bracketWord, map_bracketsAfter none _ hflag', map_token_statementOf, pairedBrackets,
      filter_isPaired_codeOf]
    intro t ht
    obtain ⟨l, hl, hmem⟩ := List.mem_flatMap.1 ht
    exact filter_isPaired_of_isScan hls (hg l hl) t hmem
  rw [checkBrackets_eq_ok_iff, hword]
  exact hnested

/-- The lines of a statement below a declaration have nested brackets. -/
lemma Declaration.HasNestedBrackets.nested {d : Declaration} (h : d.HasNestedBrackets) :
    ∀ g ∈ groups d.scan.tail, Nested (pairedBrackets g) := by
  obtain ⟨first, hscan⟩ : ∃ first, d.scan = first :: d.scan.tail := ⟨_, rfl⟩
  have hstatements := h.statements
  have hdeclaration := h.declaration
  rw [hscan, groups] at hstatements hdeclaration
  intro g hg
  cases hmode : first.mode with
  | root =>
    rw [if_neg (by simp [hmode])] at hstatements
    exact hstatements g (List.mem_cons_of_mem _ hg)
  | string =>
    rw [if_pos hmode] at hstatements hdeclaration
    cases hgroups : groups d.scan.tail with
    | nil =>
      rw [hgroups] at hg
      cases hg
    | cons below rest =>
      rw [hgroups] at hg hstatements hdeclaration
      rcases List.mem_cons.1 hg with rfl | hmem
      · -- the statement starts with the declaration line, whose own brackets are nested
        have hwhole : Nested (pairedBrackets ([first] ++ g)) := hstatements _ List.mem_cons_self
        have hline : Nested (pairedBrackets [first]) := hdeclaration _ rfl
        rw [pairedBrackets_append] at hwhole
        exact hwhole.of_append hline
      · exact hstatements g (List.mem_cons_of_mem _ hmem)

/-- **Nested brackets.** A text in which the round, square and curly brackets outside strings and
comments are nested in each statement is not objected to for a bracket, if those of the declaration
line are nested by themselves and below it no `>` stands directly after a word. -/
theorem check_of_hasNestedBrackets {t : Text} {d : Declaration}
    (hd : Declares false 1 (Text.lines t) d) (hnested : d.HasNestedBrackets) {p : Problem}
    (hp : check t = .error p) (c : Char) : p.cause ≠ .unmatched c ∧ p.cause ≠ .unclosed c := by
  have hbrackets : ∀ s ∈ d.statements, checkBrackets s = .ok () := by
    intro s hs
    obtain ⟨g, hg, rfl⟩ := List.mem_map.1 hs
    exact checkBrackets_of_nested (isScan_scanLines _ _)
      (fun l hl => List.mem_of_mem_tail (mem_of_mem_groups hg hl)) (hnested.nested g hg)
      (hnested.noFlag g hg)
  -- what is left are the objections to the kind, to a block and to a string
  rw [check_eq hd, checkLines_scan] at hp
  split at hp
  · rcases foldlM_statementStep_cases d.kind d.statements with ⟨blocks, hfold, -⟩ |
      ⟨s, hs, q, -, hobjects, -⟩ | ⟨-, -, -, head, -, -, -, -, -, hfold⟩
    · have hend : checkEnd d.scan blocks = .error p := by rwa [hfold] at hp
      unfold checkEnd at hend
      split at hend
      · cases hend
        simp
      · split at hend
        · cases hend
        · cases hend
          simp [Problem.at]
    · cases (hbrackets s hs).symm.trans hobjects
    · rw [hfold] at hp
      cases hp
      simp [Problem.at]
  · cases hp
    simp [Problem.at]

/-- A label may run over several lines, and the head of an arrow is no bracket. -/
theorem check_of_hasNestedBrackets_label :
    ∃ d, Declares false 1 (Text.lines "graph TD\nA[\"x\ny\"] --> B\nend".toList) d ∧
      d.HasNestedBrackets ∧
      check "graph TD\nA[\"x\ny\"] --> B\nend".toList = .error (.at .unexpectedEnd 4 0 3) ∧
      ∀ c, Cause.unexpectedEnd ≠ .unmatched c ∧ Cause.unexpectedEnd ≠ .unclosed c := by
  let d : Declaration := ⟨1, "graph TD".toList, ["A[\"x".toList, "y\"] --> B".toList, "end".toList]⟩
  have hd : Declares false 1 (Text.lines "graph TD\nA[\"x\ny\"] --> B\nend".toList) d :=
    (declarationFrom?_eq_some_iff _ _ _ _).1 (by rfl)
  have hnested : d.HasNestedBrackets := by
    refine ⟨?_, ?_, ?_⟩
    · decide +kernel
    · decide +kernel
    · decide +kernel
  have hcheck : check "graph TD\nA[\"x\ny\"] --> B\nend".toList =
      .error (.at .unexpectedEnd 4 0 3) := by decide +kernel
  exact ⟨d, hd, hnested, hcheck, check_of_hasNestedBrackets hd hnested hcheck⟩

/-- A `>` directly after a word is objected to, and so is what closes a bracket of the declaration
line. -/
theorem objections_to_nested_brackets :
    (∃ d, Declares false 1 (Text.lines "graph TD\nA>B".toList) d ∧ isFlowchart d.kind = true ∧
      (∀ g ∈ groups d.scan, Nested (pairedBrackets g)) ∧
      check "graph TD\nA>B".toList = .error (.at (.unclosed '>') 2 1 1)) ∧
    ∃ d, Declares false 1 (Text.lines "graph TD; A[\"x\ny\"]".toList) d ∧
      isFlowchart d.kind = true ∧ (∀ g ∈ groups d.scan, Nested (pairedBrackets g)) ∧
      check "graph TD; A[\"x\ny\"]".toList = .error (.at (.unmatched ']') 2 2 1) := by
  constructor
  · exact ⟨⟨1, "graph TD".toList, ["A>B".toList]⟩,
      (declarationFrom?_eq_some_iff _ _ _ _).1 (by rfl), by decide +kernel, by decide +kernel,
      by decide +kernel⟩
  · exact ⟨⟨1, "graph TD; A[\"x".toList, ["y\"]".toList]⟩,
      (declarationFrom?_eq_some_iff _ _ _ _).1 (by rfl), by decide +kernel, by decide +kernel,
      by decide +kernel⟩

end Structure

end Mermaid
