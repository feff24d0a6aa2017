import Mathlib.Data.List.SplitBy
import Mermaid.Proofs.Lexer.Tiling
import Mermaid.Proofs.Lexer.Words

/-!
# Reading a line from left to right

The lexer is a reader with two modes. Inside a string everything up to the next quote belongs to the
string. Outside strings a line goes on with a comment, a delimiter, a quote or the longest word that
stands there, and else with text up to the next place where one of them stands.

* `Lexer.Takes` lists what stands at the head of a line outside strings;
* `Lexer.Scans` reads a whole line;
* `Lexer.scans_classifyFrom` and `Lexer.classifyFrom_of_scans` say that the lexer does the same.
-/

namespace Mermaid.Lexer

/-- The delimiters. -/
def delimiterTexts : List Text :=
  ["[", "]", "(", ")", "\x7b", "\x7d", ">", "--", "==", ":"].map String.toList

/-- Whether a comment stands in front of the rest of a line: it goes to the end of the line, but a
line feed may follow as the very last character. -/
inductive IsComment : Text → Text → Prop
  | mk {body rest : Text} (hbody : '\n' ∉ body) (hrest : rest = [] ∨ rest = ['\n']) :
    IsComment ('%' :: '%' :: body) rest

/-- Whether a lexeme of a class stands in front of the rest of a line outside strings, and the mode
behind it. -/
inductive Takes : Text → Text → TokenClass → Mode → Prop
  | comment {w rest : Text} (h : IsComment w rest) : Takes w rest .comment .root
  | delimiter {w rest : Text} (h : w ∈ delimiterTexts) : Takes w rest .delimiter .root
  | quote {rest : Text} : Takes ['"'] rest .string .string
  | word {w rest : Text} (hw : IsWord w) (hlongest : ∀ v, IsWord v → v <+: w ++ rest → v <+: w) :
    Takes w rest (if w ∈ Keyword.wordTexts then .keyword else .identifier) .root

/-- Whether some lexeme stands at the head of a line outside strings. -/
def Applies (u : Text) : Prop := ∃ w rest kind next, u = w ++ rest ∧ Takes w rest kind next

/-- Whether a lexeme stands nowhere in some text in front of the rest of a line. -/
def IsPassedOver (u rest : Text) : Prop :=
  ∀ front back, u = front ++ back → back ≠ [] → ¬Applies (back ++ rest)

/-- Some texts as tokens of one class that lie side by side from a column on. -/
def sideBySide (kind : TokenClass) : Nat → List Text → List Token
  | _, [] => []
  | column, w :: ws => ⟨column, w, kind⟩ :: sideBySide kind (column + w.length) ws

/-- The pieces that characters inside a string are cut into: each backslash stands alone. -/
def stringPieces (s : Text) : List Text := s.splitBy fun a b => a ≠ '\\' && b ≠ '\\'

/-- Whether a line that starts at a column and in a mode has some tokens, and the mode behind it. -/
inductive Scans : Nat → Mode → Text → List Token → Mode → Prop
  | done {column : Nat} : Scans column .root [] [] .root
  | lexeme {column : Nat} {w rest : Text} {kind : TokenClass} {next final : Mode} {ts : List Token}
    (h : Takes w rest kind next) (hrest : Scans (column + w.length) next rest ts final) :
    Scans column .root (w ++ rest) (⟨column, w, kind⟩ :: ts) final
  /-- Text goes on up to the next lexeme. -/
  | text {column : Nat} {u rest : Text} {final : Mode} {ts : List Token} (hne : u ≠ [])
    (hnone : IsPassedOver u rest) (hnext : rest = [] ∨ Applies rest)
    (hrest : Scans (column + u.length) .root rest ts final) :
    Scans column .root (u ++ rest) (⟨column, u, .text⟩ :: ts) final
  /-- A string goes on up to the next quote. -/
  | closed {column : Nat} {s rest : Text} {final : Mode} {ts : List Token} (hs : '"' ∉ s)
    (hrest : Scans (column + s.length + 1) .root rest ts final) :
    Scans column .string (s ++ '"' :: rest)
      (sideBySide .string column (stringPieces s ++ [['"']]) ++ ts) final
  /-- A string without another quote goes on behind the line. -/
  | unclosed {column : Nat} {s : Text} (hs : '"' ∉ s) :
    Scans column .string s (sideBySide .string column (stringPieces s)) .string

/-! ## Lexemes outside strings -/

/-- What stands at the head of a line outside strings has characters. -/
lemma Takes.ne_nil {w rest : Text} {kind : TokenClass} {next : Mode} (h : Takes w rest kind next) :
    w ≠ [] := by
  cases h with
  | comment h => cases h; simp
  | delimiter h =>
    rintro rfl
    exact absurd h (by decide)
  | quote => simp
  | word hw _ => cases hw; simp

/-- No comment stands where there is no percent sign. -/
lemma comment_of_ne {c : Char} (hc : c ≠ '%') (cs : Text) : comment (c :: cs) = [] := by
  unfold comment
  split
  · next heq => exact absurd (List.cons.inj heq).1 hc
  · rfl

/-- What the lexer takes as a comment goes to the end of the line. -/
lemma isComment_comment {u : Text} (h : comment u ≠ []) :
    ∃ rest, u = comment u ++ rest ∧ IsComment (comment u) rest := by
  unfold comment at h ⊢
  split at h
  · next rest =>
    dsimp only at h ⊢
    split at h
    · next hle =>
      have hsplit : rest = rest.takeWhile (· ≠ '\n') ++ rest.dropWhile (· ≠ '\n') :=
        List.takeWhile_append_dropWhile.symm
      have hbody : '\n' ∉ rest.takeWhile (· ≠ '\n') := by
        intro hmem
        simpa using List.mem_takeWhile_imp hmem
      rw [if_pos hle]
      refine ⟨rest.dropWhile (· ≠ '\n'), by rw [List.cons_append, List.cons_append, ← hsplit],
        .mk hbody ?_⟩
      have hdrop : rest.drop (rest.takeWhile (· ≠ '\n')).length = rest.dropWhile (· ≠ '\n') := by
        have hleft := @List.drop_left _ (rest.takeWhile (· ≠ '\n')) (rest.dropWhile (· ≠ '\n'))
        rwa [← hsplit] at hleft
      have hhead := List.head?_dropWhile_not (· ≠ '\n') rest
      rw [hdrop] at hle
      cases htail : rest.dropWhile (· ≠ '\n') with
      | nil => exact .inl rfl
      | cons c cs =>
        rw [htail] at hle hhead
        have hc : c = '\n' := by simpa using hhead
        have hcs : cs = [] := List.length_eq_zero_iff.1 (by simpa using hle)
        exact .inr (by rw [hc, hcs])
    · exact absurd rfl h
  · exact absurd rfl h

/-- The lexer takes every comment. -/
lemma comment_of_isComment {w rest : Text} (h : IsComment w rest) : comment (w ++ rest) = w := by
  cases h with
  | @mk body _ hbody hrest =>
    have hplain : ∀ c ∈ body, (c ≠ '\n' : Bool) = true := by
      intro c hc
      have hne : c ≠ '\n' := fun heq => hbody (heq ▸ hc)
      simpa using hne
    have htake : (body ++ rest).takeWhile (· ≠ '\n') = body := by
      rw [List.takeWhile_append_of_pos hplain]
      rcases hrest with rfl | rfl <;> simp
    have hle : rest.length ≤ 1 := by rcases hrest with rfl | rfl <;> simp
    rw [List.cons_append, List.cons_append, comment, htake, List.drop_left, if_pos hle]

/-- What the lexer takes as a delimiter is one. -/
lemma delimiter_mem {u : Text} (h : delimiter u ≠ []) : delimiter u ∈ delimiterTexts := by
  cases u with
  | nil => exact absurd rfl h
  | cons c cs =>
    rw [delimiter_cons] at h ⊢
    split
    · decide
    · split
      · decide
      · split
        · next hc =>
          simp only [List.contains_cons, List.contains_nil, Bool.or_false, Bool.or_eq_true,
            beq_iff_eq] at hc
          rcases hc with rfl | rfl | rfl | rfl | rfl | rfl | rfl | rfl <;> decide
        · simp_all

/-- The lexer takes every delimiter. -/
lemma delimiter_of_mem {d : Text} (h : d ∈ delimiterTexts) (rest : Text) :
    delimiter (d ++ rest) = d ∧ comment (d ++ rest) = [] := by
  simp only [delimiterTexts, List.map_cons, List.map_nil, List.mem_cons, List.not_mem_nil,
    or_false] at h
  rcases h with rfl | rfl | rfl | rfl | rfl | rfl | rfl | rfl | rfl | rfl <;> exact ⟨rfl, rfl⟩

/-- A letter is no other character that a lexeme starts with. -/
lemma ne_of_isWordStart {c : Char} (hc : isWordStart c = true) (d : Char)
    (hd : isWordStart d = false) : c ≠ d := by
  rintro rfl
  rw [hd] at hc
  cases hc

/-- Where a word stands, there is no delimiter. -/
lemma delimiter_of_isWordStart {c : Char} (hc : isWordStart c = true) (cs : Text) :
    delimiter (c :: cs) = [] := by
  by_contra hne
  have hmem := delimiter_mem hne
  obtain ⟨rest, hrest⟩ := delimiter_isPrefix (c :: cs)
  -- no delimiter starts with a letter
  have hhead : ∀ d ∈ delimiterTexts, d.head?.any isWordStart = false := by decide
  cases hd : delimiter (c :: cs) with
  | nil => exact hne hd
  | cons e es =>
    rw [hd, List.cons_append, List.cons.injEq] at hrest
    have hstart := hhead _ hmem
    rw [hd, List.head?_cons, Option.any_some, hrest.1, hc] at hstart
    cases hstart

/-- The class that the lexer gives a word. -/
lemma wordClass_eq (w : Text) :
    wordClass w = if w ∈ Keyword.wordTexts then .keyword else .identifier := by
  simp only [wordClass, Keyword.isKeyword, List.contains_iff_mem]

/-- The rules outside strings take what stands at the head of a line. -/
lemma rootLexeme?_of_takes {w rest : Text} {kind : TokenClass} {next : Mode}
    (h : Takes w rest kind next) : rootLexeme? (w ++ rest) = some ⟨kind, w, next⟩ := by
  cases h with
  | comment h =>
    have hcomment := comment_of_isComment h
    cases h with
    | mk _ _ => simp only [rootLexeme?, hcomment]
  | delimiter h =>
    obtain ⟨hdelimiter, hcomment⟩ := delimiter_of_mem h rest
    obtain ⟨c, cs, rfl⟩ := List.exists_cons_of_ne_nil (@Takes.delimiter _ rest h).ne_nil
    simp only [rootLexeme?, hcomment, hdelimiter]
  | quote =>
    have hcomment : comment ('"' :: rest) = [] := comment_of_ne (by decide) rest
    have hdelimiter : delimiter ('"' :: rest) = [] := rfl
    simp only [rootLexeme?, List.singleton_append, hcomment, hdelimiter]
  | word hw hlongest =>
    have hword := (word_append_eq_iff hw).2 hlongest
    cases hw with
    | @mk c u hc _ =>
      have hcomment := comment_of_ne (ne_of_isWordStart hc '%' (by decide)) (u ++ rest)
      have hdelimiter := delimiter_of_isWordStart hc (u ++ rest)
      rw [List.cons_append] at hword ⊢
      simp only [rootLexeme?, hcomment, hdelimiter]
      split
      · next heq => exact absurd (List.cons.inj heq).1 (ne_of_isWordStart hc '"' (by decide))
      · simp only [hword, wordClass_eq]

/-- What the rules outside strings take stands at the head of the line. -/
lemma takes_of_rootLexeme? {u : Text} {l : Lexeme} (h : rootLexeme? u = some l) :
    ∃ rest, u = l.text ++ rest ∧ Takes l.text rest l.kind l.next := by
  unfold rootLexeme? at h
  split at h
  · next c w hw =>
    obtain rfl := Option.some.inj h
    obtain ⟨rest, hrest, hcomment⟩ := isComment_comment (u := u) (by simp [hw])
    rw [hw] at hrest hcomment
    exact ⟨rest, hrest, .comment hcomment⟩
  · split at h
    · next c w hw =>
      obtain rfl := Option.some.inj h
      obtain ⟨rest, hrest⟩ := delimiter_isPrefix u
      have hmem := delimiter_mem (u := u) (by simp [hw])
      rw [hw] at hrest hmem
      exact ⟨rest, hrest.symm, .delimiter hmem⟩
    · split at h
      · obtain rfl := Option.some.inj h
        exact ⟨_, rfl, .quote⟩
      · split at h
        · next c w hw =>
          obtain rfl := Option.some.inj h
          obtain ⟨rest, hrest⟩ := word_isPrefix u
          have hword : IsWord (word u) := isWord_word (by simp [hw])
          rw [hw] at hrest hword
          refine ⟨rest, hrest.symm, ?_⟩
          dsimp only
          rw [wordClass_eq]
          refine .word hword ((word_append_eq_iff hword).1 ?_)
          rw [hrest, hw]
        · cases h

/-- Some rule outside strings applies exactly where a lexeme stands. -/
lemma isSome_rootLexeme?_iff (u : Text) : (rootLexeme? u).isSome = true ↔ Applies u := by
  rw [Option.isSome_iff_exists]
  constructor
  · intro h
    obtain ⟨l, hl⟩ := h
    obtain ⟨rest, hrest, htakes⟩ := takes_of_rootLexeme? hl
    exact ⟨l.text, rest, l.kind, l.next, hrest, htakes⟩
  · intro h
    obtain ⟨w, rest, kind, next, rfl, htakes⟩ := h
    exact ⟨_, rootLexeme?_of_takes htakes⟩

/-! ## Text outside strings -/

/-- A character that is a lexeme by itself is not passed over. -/
lemma IsPassedOver.not_mem {u rest : Text} (h : IsPassedOver u rest) {c : Char}
    (hc : ∀ rest, ∃ kind next, Takes [c] rest kind next) : c ∉ u := by
  intro hmem
  obtain ⟨front, back, rfl⟩ := List.append_of_mem hmem
  obtain ⟨kind, next, htakes⟩ := hc (back ++ rest)
  exact h front (c :: back) rfl (List.cons_ne_nil c back) ⟨[c], _, kind, next, rfl, htakes⟩

/-- Text goes on up to the next place where a lexeme stands. -/
lemma unmatched_append_iff {u rest : Text} :
    unmatched .root (u ++ rest) = u ↔ IsPassedOver u rest ∧ (rest = [] ∨ Applies rest) := by
  induction u with
  | nil =>
    rw [List.nil_append]
    cases rest with
    | nil => simp [IsPassedOver, unmatched]
    | cons c cs =>
      rw [unmatched, lexeme?]
      split
      · next happlies => simp [IsPassedOver, (isSome_rootLexeme?_iff _).1 happlies]
      · next hnot => simp [IsPassedOver, mt (isSome_rootLexeme?_iff _).2 hnot]
  | cons c cs ih =>
    rw [List.cons_append, unmatched, lexeme?]
    split
    · next hsome =>
      have happlies := (isSome_rootLexeme?_iff _).1 hsome
      constructor
      · intro h
        cases h
      · intro h
        exact absurd happlies (h.1 [] (c :: cs) rfl (List.cons_ne_nil c cs))
    · next hnone =>
      have hnot := mt (isSome_rootLexeme?_iff _).2 hnone
      rw [List.cons.injEq, ih]
      constructor
      · rintro ⟨-, hnone, hnext⟩
        refine ⟨?_, hnext⟩
        intro front back heq hback
        cases front with
        | nil =>
          rw [List.nil_append] at heq
          rw [← heq]
          exact hnot
        | cons d front => exact hnone front back (List.cons.inj heq).2 hback
      · rintro ⟨hnone, hnext⟩
        refine ⟨rfl, ?_, hnext⟩
        intro front back heq hback
        exact hnone (c :: front) back (by rw [heq, List.cons_append]) hback

/-- The first piece of a line that starts with text. -/
lemma piece_of_text {u rest : Text} (hne : u ≠ []) (hnone : IsPassedOver u rest)
    (hnext : rest = [] ∨ Applies rest) : piece .root (u ++ rest) = ⟨.text, u, .root⟩ := by
  have hlexeme : lexeme? .root (u ++ rest) = none := by
    rw [lexeme?, ← Option.not_isSome_iff_eq_none, isSome_rootLexeme?_iff]
    exact hnone [] u rfl hne
  rw [piece_of_no_lexeme? .root hlexeme, unmatched_append_iff.2 ⟨hnone, hnext⟩]

/-! ## Strings -/

lemma stringPieces_backslash (s : Text) : stringPieces ('\\' :: s) = ['\\'] :: stringPieces s := by
  have hcut : ∀ x ∈ ['\\'].getLast?, ∀ y ∈ s.head?, (x ≠ '\\' && y ≠ '\\' : Bool) = false := by
    simp
  exact List.splitBy_append hcut

lemma stringPieces_plain {u s : Text} (hne : u ≠ []) (hu : '\\' ∉ u)
    (hs : s = [] ∨ ∃ s', s = '\\' :: s') : stringPieces (u ++ s) = u :: stringPieces s := by
  have hcut : ∀ x ∈ u.getLast?, ∀ y ∈ s.head?, (x ≠ '\\' && y ≠ '\\' : Bool) = false := by
    rcases hs with rfl | ⟨s', rfl⟩ <;> simp
  have hplain : ∀ x ∈ u, x ≠ '\\' := fun x hx heq => hu (heq ▸ hx)
  have hwhole : u.Pairwise fun x y => (x ≠ '\\' && y ≠ '\\' : Bool) = true := by
    rw [List.pairwise_iff_forall_sublist]
    intro x y hxy
    have hx := hplain x (hxy.subset (by simp))
    have hy := hplain y (hxy.subset (by simp))
    simp [hx, hy]
  rw [stringPieces, List.splitBy_append hcut, List.splitBy_of_isChain hne hwhole.isChain]
  rfl

/-- Inside a string the first piece of a line is the first piece of what stands in front of the next
quote. -/
lemma exists_stringPiece {s rest : Text} (hne : s ≠ []) (hs : '"' ∉ s)
    (hrest : rest = [] ∨ ∃ rest', rest = '"' :: rest') :
    ∃ u s', s = u ++ s' ∧ u ≠ [] ∧ stringPieces s = u :: stringPieces s' ∧
      piece .string (u ++ (s' ++ rest)) = ⟨.string, u, .string⟩ := by
  obtain ⟨c, cs, rfl⟩ := List.exists_cons_of_ne_nil hne
  by_cases hc : c = '\\'
  · subst hc
    exact ⟨['\\'], cs, rfl, by simp, stringPieces_backslash cs, rfl⟩
  -- a run of plain characters ends at a backslash, at the quote or with the line
  have hsplit : c :: cs = (c :: cs).takeWhile isPlain ++ (c :: cs).dropWhile isPlain :=
    List.takeWhile_append_dropWhile.symm
  have hfront := List.all_takeWhile (p := isPlain) (l := c :: cs)
  have hback := List.head?_dropWhile_not isPlain (c :: cs)
  have hplain : isPlain c = true := by
    have hquote : c ≠ '"' := fun h => hs (by rw [h]; exact List.mem_cons_self)
    simp [isPlain, hc, hquote]
  have hu : (c :: cs).takeWhile isPlain ≠ [] := by rw [List.takeWhile_cons_of_pos hplain]; simp
  generalize (c :: cs).takeWhile isPlain = u at hsplit hfront hu
  generalize (c :: cs).dropWhile isPlain = s' at hsplit hback
  rw [hsplit] at hs ⊢
  have hslash : '\\' ∉ u := fun h => absurd (List.all_eq_true.1 hfront _ h) (by decide)
  have hs' : s' = [] ∨ ∃ s'', s' = '\\' :: s'' := by
    cases s' with
    | nil => exact .inl rfl
    | cons d ds =>
      have hquote : d ≠ '"' := fun h => hs (by simp [h])
      have hd : isPlain d = false := by simpa using hback
      have : d = '\\' := by simpa [isPlain, hquote] using hd
      exact .inr ⟨ds, by rw [this]⟩
  have hfiller : filler .string (u ++ (s' ++ rest)) = u := by
    rw [filler, List.takeWhile_append_of_pos (List.all_eq_true.1 hfront)]
    rcases hs' with rfl | ⟨s'', rfl⟩
    · rcases hrest with rfl | ⟨rest', rfl⟩
      · exact List.append_nil u
      · rw [List.nil_append, List.takeWhile_cons_of_neg (by decide), List.append_nil]
    · rw [List.cons_append, List.takeWhile_cons_of_neg (by decide), List.append_nil]
  refine ⟨u, s', rfl, hu, stringPieces_plain hu hslash hs', ?_⟩
  rw [piece_of_filler (by rw [hfiller]; exact hu), hfiller, fillerClass]

/-- Inside a string the lexer cuts the characters up to the next quote into pieces. -/
lemma classifyFrom_string (column : Nat) {s rest : Text} (hs : '"' ∉ s)
    (hrest : rest = [] ∨ ∃ rest', rest = '"' :: rest') :
    classifyFrom column .string (s ++ rest) =
      (sideBySide .string column (stringPieces s) ++
        (classifyFrom (column + s.length) .string rest).1,
      (classifyFrom (column + s.length) .string rest).2) := by
  induction hn : s.length using Nat.strong_induction_on generalizing column s with
  | _ n ih =>
  by_cases hne : s = []
  · subst hne hn
    rfl
  obtain ⟨u, s', rfl, hu, hpieces, hpiece⟩ := exists_stringPiece hne hs hrest
  have hlength := List.length_pos_iff.2 hu
  rw [List.length_append] at hn
  have hrec := ih s'.length (by omega) (column + u.length)
    (fun h => hs (List.mem_append_right u h)) rfl
  rw [Nat.add_assoc, hn] at hrec
  rw [hpieces, sideBySide, List.append_assoc, List.cons_append,
    classifyFrom_of_ne_nil column .string (by simp [hu]), hpiece, List.drop_left, hrec]

/-- The closing quote of a string. -/
lemma classifyFrom_closing (column : Nat) (rest : Text) :
    classifyFrom column .string ('"' :: rest) =
      (⟨column, ['"'], .string⟩ :: (classifyFrom (column + 1) .root rest).1,
        (classifyFrom (column + 1) .root rest).2) := by
  have hpiece : piece .string ('"' :: rest) = ⟨.string, ['"'], .root⟩ := rfl
  rw [classifyFrom_of_ne_nil column .string (List.cons_ne_nil _ _), hpiece]
  rfl

/-! ## Whole lines -/

lemma sideBySide_append (kind : TokenClass) (column : Nat) (ws vs : List Text) :
    sideBySide kind column (ws ++ vs) =
      sideBySide kind column ws ++ sideBySide kind (column + ws.flatten.length) vs := by
  induction ws generalizing column with
  | nil => rfl
  | cons w ws ih =>
    rw [List.cons_append, sideBySide, ih, sideBySide, List.flatten_cons, List.length_append,
      Nat.add_assoc, List.cons_append]

lemma kind_of_mem_sideBySide {kind : TokenClass} {column : Nat} {ws : List Text} {t : Token}
    (h : t ∈ sideBySide kind column ws) : t.kind = kind := by
  induction ws generalizing column with
  | nil => cases h
  | cons w ws ih =>
    rcases List.mem_cons.1 h with rfl | hmem
    · rfl
    · exact ih hmem

lemma length_flatten_stringPieces (s : Text) : (stringPieces s).flatten.length = s.length := by
  rw [stringPieces, List.flatten_splitBy]

/-- The lexer reads a line from left to right. -/
lemma scans_classifyFrom (column : Nat) (mode : Mode) (line : Text) :
    Scans column mode line (classifyFrom column mode line).1 (classifyFrom column mode line).2 := by
  induction hn : line.length using Nat.strong_induction_on generalizing column mode line with
  | _ n ih =>
  cases mode with
  | root =>
    by_cases hne : line = []
    · subst hne
      rw [classifyFrom]
      exact .done
    rw [classifyFrom_of_ne_nil column .root hne]
    cases hl : rootLexeme? line with
    | some l =>
      rw [piece_of_lexeme? .root hl]
      obtain ⟨rest, rfl, htakes⟩ := takes_of_rootLexeme? hl
      have hlength := List.length_pos_iff.2 htakes.ne_nil
      rw [List.length_append] at hn
      rw [List.drop_left]
      exact .lexeme htakes (ih rest.length (by omega) _ _ rest rfl)
    | none =>
      rw [piece_of_no_lexeme? .root hl]
      obtain ⟨rest, hrest⟩ := unmatched_isPrefix .root line
      have hu : unmatched .root line ≠ [] := by
        have hne' := piece_ne_nil .root hne
        rwa [piece_of_no_lexeme? .root hl] at hne'
      have htext := unmatched_append_iff.1 (congrArg (unmatched .root) hrest)
      generalize unmatched .root line = u at hrest hu htext
      subst hrest
      have hlength := List.length_pos_iff.2 hu
      rw [List.length_append] at hn
      dsimp only
      rw [List.drop_left]
      exact .text hu htext.1 htext.2 (ih rest.length (by omega) _ _ rest rfl)
  | string =>
    by_cases hquote : '"' ∈ line
    · -- the string is closed by the first quote of the line
      obtain ⟨s, rest, rfl, hs⟩ := List.eq_append_cons_of_mem hquote
      rw [List.length_append, List.length_cons] at hn
      have hrec := ih rest.length (by omega) (column + s.length + 1) .root rest rfl
      rw [classifyFrom_string column hs (.inr ⟨rest, rfl⟩), classifyFrom_closing]
      have hscans := @Scans.closed column _ _ _ _ hs hrec
      rwa [sideBySide_append, length_flatten_stringPieces, List.append_assoc] at hscans
    · have hall := classifyFrom_string column hquote (.inl rfl)
      rw [List.append_nil, classifyFrom, List.append_nil] at hall
      rw [hall]
      exact .unclosed hquote

/-- What reads a line from left to right is the lexer. -/
lemma classifyFrom_of_scans {column : Nat} {mode final : Mode} {line : Text} {ts : List Token}
    (h : Scans column mode line ts final) : classifyFrom column mode line = (ts, final) := by
  induction h with
  | done => rw [classifyFrom]
  | @lexeme column w rest kind next final ts h _ ih =>
    have hpiece := piece_of_lexeme? .root (rootLexeme?_of_takes h)
    rw [classifyFrom_of_ne_nil column .root (by simp [h.ne_nil]), hpiece, List.drop_left, ih]
  | @text column u rest final ts hne hnone hnext _ ih =>
    rw [classifyFrom_of_ne_nil column .root (by simp [hne]), piece_of_text hne hnone hnext,
      List.drop_left, ih]
  | @closed column s rest final ts hs _ ih =>
    rw [classifyFrom_string column hs (.inr ⟨rest, rfl⟩), classifyFrom_closing, ih,
      sideBySide_append, length_flatten_stringPieces, List.append_assoc]
    rfl
  | @unclosed column s hs =>
    have hall := classifyFrom_string column hs (.inl rfl)
    rw [List.append_nil, classifyFrom, List.append_nil] at hall
    exact hall

/-- Every token of a line is a lexeme outside strings, text in front of one, or part of a string. -/
lemma Scans.mem_cases {column : Nat} {mode final : Mode} {line : Text} {ts : List Token}
    (h : Scans column mode line ts final) {t : Token} (ht : t ∈ ts) :
    (∃ column w rest kind next, t = ⟨column, w, kind⟩ ∧ Takes w rest kind next) ∨
      (t.kind = .text ∧ ∃ rest, IsPassedOver t.text rest) ∨ t.kind = .string := by
  induction h with
  | done => cases ht
  | lexeme htakes _ ih =>
    rcases List.mem_cons.1 ht with rfl | hmem
    · exact .inl ⟨_, _, _, _, _, rfl, htakes⟩
    · exact ih hmem
  | text _ hnone _ _ ih =>
    rcases List.mem_cons.1 ht with rfl | hmem
    · exact .inr (.inl ⟨rfl, _, hnone⟩)
    · exact ih hmem
  | closed _ _ ih =>
    rcases List.mem_append.1 ht with hstring | hmem
    · exact .inr (.inr (kind_of_mem_sideBySide hstring))
    · exact ih hmem
  | unclosed _ => exact .inr (.inr (kind_of_mem_sideBySide ht))

end Mermaid.Lexer
