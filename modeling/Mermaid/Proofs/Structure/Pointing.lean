import Mermaid.Proofs.Editor.DiagnosticRange
import Mermaid.Proofs.Structure.Openings
import Mermaid.Proofs.Structure.Quotes

/-!
# Where the structural check points

Every objection but the one to a text without a declaration is about some characters of one line:
the word that is no kind of diagram, a bracket, the head of a statement, or a string that starts
with the quote that opens it. An editor marks these characters, and no others.

* `Structure.Offends` lists the causes of an objection, each with its place;
* `Structure.PointsAt` says that a place shows what an objection names;
* `Structure.check_points` puts both together for all texts.
-/

namespace Mermaid

/-- A letter is not blank. -/
lemma Lexer.IsWord.exists_cons {w : Text} (h : Lexer.IsWord w) :
    ∃ c cs, w = c :: cs ∧ Text.isBlank c = false := by
  cases h with
  | @mk c u hc _ =>
    refine ⟨c, u, rfl, ?_⟩
    rw [← Bool.not_eq_true]
    intro hblank
    have hstart : Lexer.isWordStart c = false :=
      Lexer.of_isBlank (p := fun c => Lexer.isWordStart c = false) (by decide) hblank
    rw [hc] at hstart
    cases hstart

/-- The tokens that count as words are words. -/
lemma Lexer.Scans.isWord {column : Nat} {mode final : Mode} {line : Text} {ts : List Token}
    (h : Lexer.Scans column mode line ts final) {t : Token} (ht : t ∈ ts)
    (hword : t.isWord = true) : Lexer.IsWord t.text := by
  rcases h.mem_cases ht with ⟨_, w, rest, kind, next, rfl, htakes⟩ | ⟨hkind, -⟩ | hkind
  · cases htakes with
    | word hw _ => exact hw
    | comment _ => cases hword
    | delimiter _ => cases hword
    | quote => cases hword
  · rw [Token.isWord, hkind] at hword
    cases hword
  · rw [Token.isWord, hkind] at hword
    cases hword

namespace Structure

/-! ## Lexemes in a text -/

/-- Whether some characters stand in a line of a text, given by its number from 1, at a column from
0. -/
structure StandsAt (t : Text) (line column : Nat) (w : Text) : Prop where
  line_pos : 1 ≤ line
  line_le : line ≤ (Text.lines t).length
  split : ∃ front back, Text.lineAt t line = front ++ (w ++ back) ∧ front.length = column

/-- The lines from a declaration on are lines of the text, with their numbers. -/
lemma lineAt_of_mem_scan {t : Text} {d : Declaration} (hd : Declares false 1 (Text.lines t) d)
    {l : ScannedLine} (hl : l ∈ d.scan) :
    1 ≤ l.number ∧ l.number ≤ (Text.lines t).length ∧ Text.lineAt t l.number = l.text := by
  have hscan : ∀ (ls : List Text) (mode : Mode) (number : Nat), ∀ l ∈ scanLines mode number ls,
      ∃ i, l.number = number + i ∧ ls[i]? = some l.text := by
    intro ls
    induction ls with
    | nil => simp [scanLines]
    | cons line ls ih =>
      intro mode number
      rw [scanLines]
      refine List.forall_mem_cons.2 ⟨⟨0, rfl, rfl⟩, fun l hl => ?_⟩
      obtain ⟨i, hnumber, htext⟩ := ih _ (number + 1) l hl
      exact ⟨i + 1, by omega, htext⟩
  obtain ⟨before, hlines, hnumber, -⟩ := hd
  obtain ⟨i, hi, htext⟩ := hscan _ _ _ l hl
  have hindex : (Text.lines t)[l.number - 1]? = some l.text := by
    rw [hlines, hi, hnumber, List.getElem?_append_right (by omega)]
    rw [← htext]
    congr 1
    omega
  have hlt := (List.getElem?_eq_some_iff.1 hindex).1
  refine ⟨by omega, by omega, ?_⟩
  rw [Text.lineAt, List.getD_eq_getElem?_getD, hindex]
  rfl

/-- A token of a line stands behind the characters of those before it, and it is not empty. -/
lemma exists_split_of_append {mode : Mode} {line : Text} {before after : List Token} {u : Token}
    (h : (Lexer.classify mode line).1 = before ++ u :: after) :
    ∃ back, line = textOf before ++ (u.text ++ back) ∧ (textOf before).length = u.start ∧
      u.text ≠ [] := by
  obtain ⟨rest, hline, hne, hpiece⟩ := Lexer.eq_piece_of_append h
  obtain ⟨back, hback⟩ := Lexer.piece_isPrefix (modeBehind mode before) rest
  refine ⟨back, ?_, by rw [hpiece], ?_⟩
  · rw [hpiece, hback, hline]
  · rw [hpiece]
    exact Lexer.piece_ne_nil _ hne

/-- The tokens from a declaration on stand in the text. -/
lemma standsAt_of_mem_tokens {t : Text} {d : Declaration} (hd : Declares false 1 (Text.lines t) d)
    {l : ScannedLine} (hl : l ∈ d.scan) {u : Token} (hu : u ∈ l.tokens) :
    StandsAt t l.number u.start u.text ∧ u.text ≠ [] := by
  obtain ⟨hpos, hle, htext⟩ := lineAt_of_mem_scan hd hl
  obtain ⟨above, below, hsplit⟩ := List.append_of_mem hl
  have htokens : l.tokens = (Lexer.classify (finalMode above) l.text).1 := by
    rw [isScan_scanLines _ _ above l below hsplit]
  rw [htokens] at hu
  obtain ⟨before, after, hbefore⟩ := List.append_of_mem hu
  obtain ⟨back, hline, hlength, hne⟩ := exists_split_of_append hbefore
  exact ⟨⟨hpos, hle, textOf before, back, htext.trans hline, hlength⟩, hne⟩

/-- The tokens of a statement are tokens of its lines. -/
lemma mem_tokens_of_mem_statements {d : Declaration} {s : Statement} (hs : s ∈ d.statements)
    {u : LocatedToken} (hu : u ∈ s) : ∃ l ∈ d.scan, u.line = l.number ∧ u.token ∈ l.tokens := by
  obtain ⟨g, hg, rfl⟩ := List.mem_map.1 hs
  obtain ⟨l, hl, hmem⟩ := List.mem_flatMap.1 hu
  obtain ⟨v, hv, rfl⟩ := List.mem_map.1 hmem
  exact ⟨l, List.mem_of_mem_tail (mem_of_mem_groups hg hl), rfl, hv⟩

lemma standsAt_of_mem_statements {t : Text} {d : Declaration}
    (hd : Declares false 1 (Text.lines t) d) {s : Statement} (hs : s ∈ d.statements)
    {u : LocatedToken} (hu : u ∈ s) :
    StandsAt t u.line u.token.start u.token.text ∧ u.token.text ≠ [] := by
  obtain ⟨l, hl, hline, htoken⟩ := mem_tokens_of_mem_statements hs hu
  rw [hline]
  exact standsAt_of_mem_tokens hd hl htoken

/-- The brackets of a statement are tokens of it. -/
lemma exists_of_mem_bracketsAfter {previous : Option Token} {s : Statement} {b : OpenBracket}
    (hb : b ∈ bracketsAfter previous s) :
    ∃ u ∈ s, b.line = u.line ∧ b.column = u.token.start ∧ u.token.text = [b.bracket] := by
  induction s generalizing previous with
  | nil => cases hb
  | cons u s ih =>
    rcases List.mem_append.1 hb with hhere | hrest
    · refine ⟨u, List.mem_cons_self, ?_⟩
      rw [Option.mem_toList, bracketAt?, Option.bind_eq_some_iff] at hhere
      obtain ⟨c, hc, hb⟩ := hhere
      split at hb
      · cases hb
        refine ⟨rfl, rfl, ?_⟩
        unfold bracketOf? at hc
        split at hc
        · next htext =>
          cases hc
          exact htext
        · cases hc
      · cases hb
    · obtain ⟨v, hv, h⟩ := ih hrest
      exact ⟨v, List.mem_cons_of_mem u hv, h⟩

/-- The first word is a word, and nothing but blanks stands in front of it. -/
lemma firstWord?_eq_some {ts : List Token} {u : Token} (h : firstWord? ts = some u) :
    u.isWord = true ∧ ∃ before after, ts = before ++ u :: after ∧
      Text.isBlankText (textOf before) = true := by
  induction ts with
  | nil => cases h
  | cons v ts ih =>
    rw [firstWord?] at h
    split at h
    · next hword =>
      cases h
      exact ⟨hword, [], ts, rfl, rfl⟩
    · split at h
      · next hblank =>
        obtain ⟨hword, before, after, rfl, hbefore⟩ := ih h
        refine ⟨hword, v :: before, after, rfl, ?_⟩
        rw [textOf_cons, Text.isBlankText_append, hblank, hbefore]
        rfl
      · cases h

/-- The head of a statement is a token of it. -/
lemma exists_of_head? {s : Statement} {head : Head} (h : head? s = some head) :
    ∃ u ∈ s, head.line = u.line ∧ head.column = u.token.start ∧ head.word = u.token.text := by
  cases s with
  | nil => cases h
  | cons first rest =>
    obtain ⟨u, hu, rfl⟩ := Option.map_eq_some_iff.1 h
    obtain ⟨-, before, after, htokens, -⟩ := firstWord?_eq_some hu
    have hmem :
        u ∈ ((first :: rest).filter fun t => t.line = first.line).map LocatedToken.token := by
      rw [htokens]
      simp
    obtain ⟨v, hv, rfl⟩ := List.mem_map.1 hmem
    obtain ⟨hv, hline⟩ := List.mem_filter.1 hv
    exact ⟨v, hv, (of_decide_eq_true hline).symm, rfl, rfl⟩

/-- The margin of a line is the length of the blanks in front of its first other character. -/
lemma margin_append {front : Text} (hfront : Text.isBlankText front = true) {c : Char}
    (hc : Text.isBlank c = false) (cs : Text) : Text.margin (front ++ c :: cs) = front.length := by
  rw [Text.margin, List.takeWhile_append_of_pos (List.all_eq_true.1 hfront),
    List.takeWhile_cons_of_neg (by simp [hc]), List.append_nil]

/-- The first word of a line that is not blank stands behind its margin. -/
lemma exists_split_headD_words {line : Text} (hline : Text.isBlankText line = false) :
    ∃ front back, line = front ++ ((Text.words line).headD [] ++ back) ∧
      front.length = Text.margin line ∧ (Text.words line).headD [] ≠ [] := by
  have hsplit := (List.takeWhile_append_dropWhile (p := Text.isBlank) (l := line)).symm
  have hword := (List.takeWhile_append_dropWhile (p := fun c => !Text.isBlank c)
    (l := line.dropWhile Text.isBlank)).symm
  rw [← Text.headD_words] at hword
  refine ⟨_, _, hword ▸ hsplit, rfl, ?_⟩
  rw [Text.headD_words]
  cases hrest : line.dropWhile Text.isBlank with
  | nil =>
    rw [Text.isBlankText, List.all_eq_true.2 (List.dropWhile_eq_nil_iff.1 hrest)] at hline
    cases hline
  | cons c cs =>
    have hc := List.head?_dropWhile_not Text.isBlank line
    rw [hrest] at hc
    rw [List.takeWhile_cons_of_pos (by simpa using hc)]
    exact List.cons_ne_nil c _

/-- What a line declares stands behind its margin. -/
lemma standsAt_kind {t : Text} {d : Declaration} (hd : Declares false 1 (Text.lines t) d) :
    StandsAt t d.number (Text.margin d.line) d.kind ∧ d.kind ≠ [] := by
  obtain ⟨hpos, hle, hline⟩ :=
    lineAt_of_mem_scan hd (l := ⟨d.number, d.line, _, _⟩) List.mem_cons_self
  dsimp only at hpos hle hline
  rw [Declaration.kind, declaredWord]
  cases hfirst : firstWord? (Lexer.classify .root d.line).1 with
  | none =>
    have hblank : Text.isBlankText d.line = false := by
      obtain ⟨before, -, -, hmay, -⟩ := hd
      exact hmay.blank
    obtain ⟨front, back, hsplit, hlength, hne⟩ := exists_split_headD_words hblank
    exact ⟨⟨hpos, hle, front, back, hline.trans hsplit, hlength⟩, hne⟩
  | some u =>
    obtain ⟨hword, before, after, htokens, hbefore⟩ := firstWord?_eq_some hfirst
    obtain ⟨back, hsplit, -, hne⟩ := exists_split_of_append htokens
    -- the word starts with a letter, so the margin ends there
    have hscans := Lexer.scans_classifyFrom 0 .root d.line
    have hmem : u ∈ (Lexer.classify .root d.line).1 := by simp [htokens]
    obtain ⟨c, cs, htext, hc⟩ := (hscans.isWord hmem hword).exists_cons
    have hmargin : Text.margin d.line = (textOf before).length := by
      rw [hsplit, htext, List.cons_append, margin_append hbefore hc]
    exact ⟨⟨hpos, hle, textOf before, back, hline.trans hsplit, hmargin.symm⟩, hne⟩

/-! ## Objections -/

/-- The objections that the lines from a declaration on give cause for, each with its place. -/
inductive Offends (d : Declaration) : Problem → Prop
  | unknownKind (h : Keyword.isDiagramKind d.kind = false) :
    Offends d (.at (.unknownDiagramType d.kind) d.number (Text.margin d.line) d.kind.length)
  | unmatched {s : Statement} {front back stack : List OpenBracket} {b : OpenBracket}
    (hflow : isFlowchart d.kind = true) (hs : s ∈ d.statements)
    (hsplit : bracketsAfter none s = front ++ b :: back) (hopen : OpenBrackets front stack)
    (hfits : FitsNone stack b) : Offends d (.at (.unmatched b.bracket) b.line b.column 1)
  | unclosed {s : Statement} {stack : List OpenBracket} {b : OpenBracket}
    (hflow : isFlowchart d.kind = true) (hs : s ∈ d.statements)
    (hopen : OpenBrackets (bracketsAfter none s) (b :: stack)) :
    Offends d (.at (.unclosed b.bracket) b.line b.column 1)
  | unexpectedEnd {s : Statement} {front back : List Statement} {head : Head}
    (hkind : blockWords d.kind ≠ []) (hsplit : d.statements = front ++ s :: back)
    (hopen : OpenBlocks d.kind (front.filterMap head?) []) (hhead : head? s = some head)
    (hend : isEnd head.word = true) : Offends d (.at .unexpectedEnd head.line head.column 3)
  | unterminatedString {l : ScannedLine} {quote : Token} (hopen : LeavesStringOpen d.scan l quote) :
    Offends d ⟨.unterminatedString, some ⟨l.number, quote.start + 1, l.text.length + 1⟩⟩
  | unclosedBlock {block : Head} {blocks : List Head}
    (hopen : OpenBlocks d.kind (d.statements.filterMap head?) (block :: blocks)) :
    Offends d (.at (.unclosedBlock block.word) block.line block.column block.word.length)

/-- What is left open at the end of the lines from a declaration on is objected to. -/
lemma checkEnd_cases {d : Declaration} {blocks : List Head}
    (hopen : OpenBlocks d.kind (d.statements.filterMap head?) blocks) :
    checkEnd d.scan blocks = .ok () ∨ ∃ p, checkEnd d.scan blocks = .error p ∧ Offends d p := by
  unfold checkEnd
  cases hfinal : finalMode d.scan with
  | string =>
    obtain ⟨l, quote, hquote, hstring⟩ := openQuote?_of_string (isScan_scanLines _ _) hfinal
    have hquote' : openQuote? d.scan = some (l, quote) := hquote
    rw [if_pos rfl, hquote']
    exact .inr ⟨_, rfl, .unterminatedString hstring⟩
  | root =>
    rw [if_neg (by simp)]
    cases blocks with
    | nil => exact .inl rfl
    | cons block blocks => exact .inr ⟨_, rfl, .unclosedBlock hopen⟩

/-- The check of the lines from a declaration on objects to nothing without cause. -/
lemma checkLines_scan_cases (d : Declaration) :
    checkLines d.scan = .ok () ∨ ∃ p, checkLines d.scan = .error p ∧ Offends d p := by
  rw [checkLines_scan]
  cases hkind : Keyword.isDiagramKind d.kind with
  | false => exact .inr ⟨_, rfl, .unknownKind hkind⟩
  | true =>
    rw [if_pos rfl]
    rcases foldlM_statementStep_cases d.kind d.statements with ⟨blocks, hfold, hopen⟩ |
      ⟨s, hs, p, hflow, hbrackets, hfold⟩ |
      ⟨front, s, back, head, hsplit, hblocks, hopen, hhead, hend, hfold⟩
    · rw [hfold]
      exact checkEnd_cases hopen
    · refine .inr ⟨p, by rw [hfold]; rfl, ?_⟩
      rcases checkBrackets_cases s with hok |
        ⟨front, b, back, stack, hsplit, hopen, hfits, herror⟩ | ⟨b, stack, hopen, herror⟩
      · cases hok.symm.trans hbrackets
      · cases herror.symm.trans hbrackets
        exact .unmatched hflow hs hsplit hopen hfits
      · cases herror.symm.trans hbrackets
        exact .unclosed hflow hs hopen
    · exact .inr ⟨_, by rw [hfold]; rfl, .unexpectedEnd hblocks hsplit hopen hhead hend⟩

/-! ## Places -/

/-- The lexeme that an objection names, unless it is about a whole string or text. -/
def Cause.lexeme? : Cause → Option Text
  | .noDiagramType => none
  | .unknownDiagramType word => some word
  | .unmatched bracket => some [bracket]
  | .unclosed bracket => some [bracket]
  | .unexpectedEnd => some endWord
  | .unterminatedString => none
  | .unclosedBlock word => some word

/-- The characters of a text at a place. -/
def Place.slice (t : Text) (p : Place) : Text :=
  ((Text.lineAt t p.line).take (p.stop - 1)).drop (p.first - 1)

/-- Whether a place lies within a line of a text and shows what an objection is about: the lexeme
that it names, or a string from its opening quote to the end of the line. -/
structure PointsAt (t : Text) (cause : Cause) (p : Place) : Prop where
  line_pos : 1 ≤ p.line
  line_le : p.line ≤ (Text.lines t).length
  first_pos : 1 ≤ p.first
  first_lt_stop : p.first < p.stop
  stop_le : p.stop ≤ (Text.lineAt t p.line).length + 1
  lexeme : ∀ w, cause.lexeme? = some w → p.slice t = w
  string : cause = .unterminatedString →
    (p.slice t).head? = some '"' ∧ p.stop = (Text.lineAt t p.line).length + 1

/-- What stands at the place of some characters is these characters. -/
lemma StandsAt.slice {t w : Text} {line column : Nat} (h : StandsAt t line column w) :
    Place.slice t ⟨line, column + 1, column + 1 + w.length⟩ = w := by
  obtain ⟨front, back, hsplit, rfl⟩ := h.split
  have hstop : front.length + 1 + w.length - 1 = front.length + w.length := by omega
  rw [Place.slice]
  dsimp only
  rw [hsplit, hstop, Nat.add_sub_cancel, ← List.append_assoc, ← List.length_append, List.take_left,
    List.drop_left]

/-- The place of some characters shows an objection that is about them. -/
lemma StandsAt.pointsAt {t w : Text} {line column : Nat} (h : StandsAt t line column w)
    (hne : w ≠ []) {cause : Cause} (hlexeme : ∀ w', cause.lexeme? = some w' → w = w')
    (hstring : cause = .unterminatedString →
      w.head? = some '"' ∧ column + w.length = (Text.lineAt t line).length) :
    PointsAt t cause ⟨line, column + 1, column + 1 + w.length⟩ where
  line_pos := h.line_pos
  line_le := h.line_le
  first_pos := Nat.succ_pos column
  first_lt_stop := Nat.lt_add_of_pos_right (List.length_pos_iff.2 hne)
  stop_le := by
    obtain ⟨front, back, hsplit, rfl⟩ := h.split
    rw [hsplit, List.length_append, List.length_append]
    dsimp only
    omega
  lexeme := by
    rw [h.slice]
    exact hlexeme
  string := by
    intro hcause
    obtain ⟨hquote, hend⟩ := hstring hcause
    rw [h.slice]
    exact ⟨hquote, by rw [← hend]; dsimp only; omega⟩

/-- The place of a lexeme shows an objection that names it. -/
lemma StandsAt.pointsAt_lexeme {t w : Text} {line column : Nat} (h : StandsAt t line column w)
    (hne : w ≠ []) {cause : Cause} (hcause : cause.lexeme? = some w) :
    PointsAt t cause ⟨line, column + 1, column + 1 + w.length⟩ := by
  refine h.pointsAt hne (fun w' hw' => Option.some.inj (hcause.symm.trans hw')) ?_
  rintro rfl
  cases hcause

/-- The place of a string that is left open shows it, from its quote to the end of the line. -/
lemma pointsAt_of_leavesStringOpen {t : Text} {d : Declaration}
    (hd : Declares false 1 (Text.lines t) d) {l : ScannedLine} {quote : Token}
    (h : LeavesStringOpen d.scan l quote) :
    PointsAt t .unterminatedString ⟨l.number, quote.start + 1, l.text.length + 1⟩ := by
  obtain ⟨hquote, above, below, before, after, hsplit, htokens, -⟩ := h
  obtain ⟨hpos, hle, hline⟩ := lineAt_of_mem_scan hd (l := l) (by simp [hsplit])
  have hclassify : (Lexer.classify (finalMode above) l.text).1 = before ++ quote :: after := by
    rw [isScan_scanLines _ _ above l below hsplit, htokens]
  obtain ⟨back, htext, hstart, -⟩ := exists_split_of_append hclassify
  rw [hquote] at htext
  have hlength : quote.start + (['"'] ++ back).length = l.text.length := by
    rw [htext, ← hstart, ← List.length_append]
  have hstands : StandsAt t l.number quote.start (['"'] ++ back) :=
    ⟨hpos, hle, textOf before, [], by rw [hline, List.append_nil, htext], hstart⟩
  have hpoints : PointsAt t .unterminatedString _ := hstands.pointsAt (List.cons_ne_nil _ _)
    (fun w hw => by cases hw) (fun _ => ⟨rfl, by rw [hline, hlength]⟩)
  have hstop : quote.start + 1 + (['"'] ++ back).length = l.text.length + 1 := by omega
  rwa [hstop] at hpoints

/-- The place of each objection shows what it is about. -/
lemma Offends.pointsAt {t : Text} {d : Declaration} (hd : Declares false 1 (Text.lines t) d)
    {p : Problem} (h : Offends d p) : ∃ place, p.place = some place ∧ PointsAt t p.cause place := by
  have hbracket : ∀ s ∈ d.statements, ∀ b ∈ bracketsAfter none s,
      StandsAt t b.line b.column [b.bracket] := by
    intro s hs b hb
    obtain ⟨u, hu, hline, hcolumn, htext⟩ := exists_of_mem_bracketsAfter hb
    rw [hline, hcolumn, ← htext]
    exact (standsAt_of_mem_statements hd hs hu).1
  have hhead : ∀ head ∈ d.statements.filterMap head?,
      StandsAt t head.line head.column head.word ∧ head.word ≠ [] := by
    intro head hmem
    obtain ⟨s, hs, hhead⟩ := List.mem_filterMap.1 hmem
    obtain ⟨u, hu, hline, hcolumn, hword⟩ := exists_of_head? hhead
    rw [hline, hcolumn, hword]
    exact standsAt_of_mem_statements hd hs hu
  cases h with
  | unknownKind _ =>
    obtain ⟨hstands, hne⟩ := standsAt_kind hd
    exact ⟨_, rfl, hstands.pointsAt_lexeme hne rfl⟩
  | @unmatched s front back stack b _ hs hsplit _ _ =>
    have hstands := hbracket s hs b (by simp [hsplit])
    exact ⟨_, rfl, hstands.pointsAt_lexeme (List.cons_ne_nil _ _) rfl⟩
  | @unclosed s stack b _ hs hopen =>
    have hstands := hbracket s hs b hopen.top_mem
    exact ⟨_, rfl, hstands.pointsAt_lexeme (List.cons_ne_nil _ _) rfl⟩
  | @unexpectedEnd s front back head _ hsplit _ hs hend =>
    have hmem : head ∈ d.statements.filterMap head? :=
      List.mem_filterMap.2 ⟨s, by simp [hsplit], hs⟩
    obtain ⟨hstands, hne⟩ := hhead head hmem
    rw [of_decide_eq_true hend] at hstands
    exact ⟨_, rfl, hstands.pointsAt_lexeme (List.cons_ne_nil _ _) rfl⟩
  | unterminatedString hopen => exact ⟨_, rfl, pointsAt_of_leavesStringOpen hd hopen⟩
  | @unclosedBlock block blocks hopen =>
    obtain ⟨hstands, hne⟩ := hhead block hopen.top_mem
    exact ⟨_, rfl, hstands.pointsAt_lexeme hne rfl⟩

/-! ## Diagnostics -/

/-- Whether an editor marks the characters of a place, counted from 0, and no others. -/
structure IsMarkedAt (p : Problem) (place : Place) : Prop where
  bounds : Diagnostic.bounds (.ofFailure (.ofProblem p)) =
    ((place.line : Int) - 1, (place.first : Int) - 1, (place.line : Int) - 1,
      (place.stop : Int) - 1)
  /-- A range that the protocol of the editors can carry is sent as it is. -/
  diagnostic : place.line ≤ Position.limit + 1 → place.stop ≤ Position.limit + 1 →
    Diagnostic.ofMarker (.ofFailure (.ofProblem p)) =
      .ok ⟨.onLine (place.line - 1) (place.first - 1) (place.stop - 1), p.cause.message, .error⟩

/-- Every objection has a text. -/
lemma Cause.message_ne (cause : Cause) : cause.message ≠ "" := by
  have happend : ∀ {a : String}, a ≠ "" → ∀ b, a ++ b ≠ "" :=
    fun ha b h => ha (String.append_eq_empty_iff.1 h).1
  cases cause with
  | noDiagramType => decide
  | unknownDiagramType word => exact happend (by decide) _
  | unmatched bracket => exact happend (happend (by decide) _) _
  | unclosed bracket => exact happend (happend (by decide) _) _
  | unexpectedEnd => decide
  | unterminatedString => decide
  | unclosedBlock word => exact happend (happend (by decide) _) _

/-- The range of a problem is neither clamped nor widened. -/
lemma isMarkedAt_of_place {p : Problem} {place : Place} (hplace : p.place = some place)
    (hline : 1 ≤ place.line) (hfirst : 1 ≤ place.first) (hstop : place.first < place.stop) :
    IsMarkedAt p place := by
  have hmarker : Marker.ofFailure (.ofProblem p) =
      ⟨.error, .string p.cause.message, place.line, place.first, place.line, place.stop⟩ := by
    have hmessage : Failure.message (.ofProblem p) = .string p.cause.message := by
      simp [Failure.message, Failure.ofProblem, Json.given?, Json.isTruthy, p.cause.message_ne]
    rw [Marker.ofFailure, hmessage, Failure.ofProblem, Failure.span?, hplace]
    rfl
  have hwell : (Marker.ofFailure (.ofProblem p)).IsWellFormed := by
    rw [hmarker]
    exact ⟨Int.ofNat_le.2 hline, Int.ofNat_le.2 hfirst, Int.ofNat_le.2 hline,
      Int.ofNat_le.2 (hfirst.trans hstop.le), .inr ⟨rfl, Int.ofNat_lt.2 hstop⟩⟩
  have hbounds := Diagnostic.bounds_of_isWellFormed hwell
  rw [hmarker] at hbounds
  refine ⟨by rw [hmarker]; exact hbounds, ?_⟩
  intro hlineLimit hstopLimit
  have hcast : ∀ n : Nat, 1 ≤ n → (n : Int) - 1 = ((n - 1 : Nat) : Int) := by
    intro n hn
    omega
  rw [hcast _ hline, hcast _ hfirst, hcast _ (hfirst.trans hstop.le)] at hbounds
  obtain ⟨range, hrange⟩ :=
    (Diagnostic.exists_rangeOf_iff Diagnostic.takesPositions_usualTypes hbounds).2
    (by omega)
  have hsame := Diagnostic.rangeOf_eq Diagnostic.takesPositions_usualTypes hbounds hrange
  rw [hsame] at hrange
  rw [hmarker, Diagnostic.ofMarker, Diagnostic.convert_eq_ok_iff]
  exact ⟨hrange, rfl, rfl⟩

/-! ## All texts -/

/-- **Pointing.** What the check looks up is always there: a declaration line has a first word, and
a statement has a first token. The check accepts the texts that declare a diagram and make it up
below, and objects to all others. It objects without a place exactly when no line may declare a
diagram; any other objection has its cause in the lines from the declaration on, it points at what
it is about, and an editor marks exactly that. -/
theorem check_points (t : Text) :
    (∀ d, Declares false 1 (Text.lines t) d →
      Text.words d.line ≠ [] ∧ ∀ s ∈ statements d.scan.tail, s ≠ []) ∧
    (check t = .ok () ∧ (∃ d, Declares false 1 (Text.lines t) d ∧ d.IsAccepted) ∨
      ∃ p, check t = .error p ∧
        (p = ⟨.noDiagramType, none⟩ ∧ (∀ d, ¬Declares false 1 (Text.lines t) d) ∨
          ∃ d place, Declares false 1 (Text.lines t) d ∧ ¬d.IsAccepted ∧ p.place = some place ∧
            Offends d p ∧ PointsAt t p.cause place ∧ IsMarkedAt p place)) := by
  constructor
  · intro d hd
    constructor
    · obtain ⟨before, -, -, hmay, -⟩ := hd
      obtain ⟨-, -, -, -, hne⟩ := exists_split_headD_words hmay.blank
      intro hnil
      rw [hnil] at hne
      exact hne rfl
    · intro s hs hnil
      rw [statements_eq, List.mem_filter, hnil] at hs
      cases hs.2
  cases hd : declaration? t with
  | none =>
    refine .inr ⟨_, by rw [check, hd], .inl ⟨rfl, fun d hd' => ?_⟩⟩
    rw [← declarationFrom?_eq_some_iff, ← declaration?, hd] at hd'
    cases hd'
  | some d =>
    have hd' := (declarationFrom?_eq_some_iff false 1 (Text.lines t) d).1 hd
    have haccepted := checkLines_scan_eq_ok_iff d
    rw [check_eq hd']
    rcases checkLines_scan_cases d with hok | ⟨p, herror, hoffends⟩
    · exact .inl ⟨hok, d, hd', haccepted.1 hok⟩
    · obtain ⟨place, hplace, hpoints⟩ := hoffends.pointsAt hd'
      have hrejected : ¬d.IsAccepted := by
        rw [← haccepted, herror]
        intro h
        cases h
      exact .inr ⟨p, herror, .inr ⟨d, place, hd', hrejected, hplace, hoffends, hpoints,
        isMarkedAt_of_place hplace hpoints.line_pos hpoints.first_pos hpoints.first_lt_stop⟩⟩

/-- A string that is left open is marked in the line of its quote. -/
theorem check_points_openString :
    ∃ d, Declares false 1 (Text.lines "graph TD\nA[\"x\ny".toList) d ∧
      Offends d ⟨.unterminatedString, some ⟨2, 3, 5⟩⟩ ∧
      PointsAt "graph TD\nA[\"x\ny".toList .unterminatedString ⟨2, 3, 5⟩ ∧
      IsMarkedAt ⟨.unterminatedString, some ⟨2, 3, 5⟩⟩ ⟨2, 3, 5⟩ := by
  have hcheck : check "graph TD\nA[\"x\ny".toList =
      .error ⟨.unterminatedString, some ⟨2, 3, 5⟩⟩ := by decide +kernel
  obtain ⟨-, ⟨hok, -⟩ | ⟨p, herror, hcause⟩⟩ := check_points "graph TD\nA[\"x\ny".toList
  · rw [hcheck] at hok
    cases hok
  · rw [hcheck] at herror
    cases herror
    obtain ⟨h, -⟩ | ⟨d, place, hd, -, hplace, hoffends, hpoints, hmarked⟩ := hcause
    · cases h
    · cases hplace
      exact ⟨d, hd, hoffends, hpoints, hmarked⟩

end Structure

end Mermaid
