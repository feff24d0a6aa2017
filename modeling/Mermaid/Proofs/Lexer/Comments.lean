import Mermaid.Proofs.Lexer.Scanning

/-!
# Quotes and comments

The quotes of a line outside comments open and close strings in turn, so that their number tells the
mode behind the line. A comment starts at the first two percent signs outside strings and goes to
the end of the line; a quote in it is an ordinary character.

`Lexer.classify_eq_iff_scans` puts this together with what is read of a line from left to right.
-/

namespace Mermaid.Lexer

/-- The number of strings that are open in a mode. -/
def openStrings : Mode → Nat
  | .root => 0
  | .string => 1

/-- The quotes of some tokens that stand in no comment. -/
def quotesOutsideComments (ts : List Token) : Nat :=
  (textOf (ts.filter (·.kind ≠ .comment))).count '"'

/-- The part of a line in front of its comment: up to the first two percent signs outside strings.
-/
def code : Mode → Text → Text
  | _, [] => []
  | .string, c :: cs => c :: code (if c = '"' then .root else .string) cs
  | .root, c :: cs =>
    if ['%', '%'].isPrefixOf (c :: cs) then []
    else c :: code (if c = '"' then .string else .root) cs

/-- The comment that starts at a column, if there is one. -/
def commentAt (column : Nat) : Text → List Token
  | [] => []
  | c :: cs => [⟨column, c :: cs, .comment⟩]

/-- A hyphenated text has no other characters than those of its class and hyphens. -/
lemma IsHyphenated.not_mem {p : Char → Bool} {u : Text} (h : IsHyphenated p u) {c : Char}
    (hc : p c = false) (hhyphen : c ≠ '-') : c ∉ u := by
  have hne : ∀ {d}, p d = true → c ≠ d := by
    rintro d hd rfl
    rw [hc] at hd
    cases hd
  induction h with
  | nil => simp
  | char hd _ ih => simp [hne hd, ih]
  | hyphen hd _ ih => simp [hne hd, hhyphen, ih]

/-- A word has no other characters than letters, word characters, dollar signs and hyphens. -/
lemma IsWord.not_mem {w : Text} (h : IsWord w) {c : Char} (hstart : isWordStart c = false)
    (hpart : isWordPart c = false) (hhyphen : c ≠ '-') : c ∉ w := by
  cases h with
  | mk hd hu =>
    rw [List.mem_cons, not_or]
    exact ⟨(ne_of_isWordStart hd c hstart).symm, hu.not_mem hpart hhyphen⟩

/-- What stands at the head of a line is a comment, a quote, or something in which neither a quote
nor a percent sign stands. -/
lemma Takes.sign_cases {w rest : Text} {kind : TokenClass} {next : Mode}
    (h : Takes w rest kind next) : (IsComment w rest ∧ kind = .comment ∧ next = .root) ∨
      (w = ['"'] ∧ kind = .string ∧ next = .string) ∨
        kind ≠ .comment ∧ next = .root ∧ '"' ∉ w ∧ '%' ∉ w := by
  cases h with
  | comment h => exact .inl ⟨h, rfl, rfl⟩
  | quote => exact .inr (.inl ⟨rfl, rfl, rfl⟩)
  | delimiter h =>
    have hall : ∀ d ∈ delimiterTexts, '"' ∉ d ∧ '%' ∉ d := by decide
    exact .inr (.inr ⟨by simp, rfl, hall w h⟩)
  | word hw _ =>
    have hkind :
        (if w ∈ Keyword.wordTexts then TokenClass.keyword else .identifier) ≠ .comment := by
      split <;> simp
    exact .inr (.inr ⟨hkind, rfl, hw.not_mem (by decide) (by decide +kernel) (by decide),
      hw.not_mem (by decide) (by decide +kernel) (by decide)⟩)

/-! ## Quotes -/

@[simp] lemma textOf_sideBySide (kind : TokenClass) (column : Nat) (ws : List Text) :
    textOf (sideBySide kind column ws) = ws.flatten := by
  induction ws generalizing column with
  | nil => rfl
  | cons w ws ih => rw [sideBySide, textOf_cons, ih, List.flatten_cons]

lemma quotesOutsideComments_append (ts us : List Token) :
    quotesOutsideComments (ts ++ us) = quotesOutsideComments ts + quotesOutsideComments us := by
  rw [quotesOutsideComments, List.filter_append, textOf_append, List.count_append,
    quotesOutsideComments, quotesOutsideComments]

/-- A token that is no comment has the quotes of its text. -/
lemma quotesOutsideComments_cons {t : Token} (h : t.kind ≠ .comment) (ts : List Token) :
    quotesOutsideComments (t :: ts) = t.text.count '"' + quotesOutsideComments ts := by
  rw [quotesOutsideComments, List.filter_cons_of_pos (by simpa using h), textOf_cons,
    List.count_append, quotesOutsideComments]

lemma quotesOutsideComments_sideBySide (column : Nat) (ws : List Text) :
    quotesOutsideComments (sideBySide .string column ws) = ws.flatten.count '"' := by
  have hall : (sideBySide .string column ws).filter (·.kind ≠ .comment) =
      sideBySide .string column ws := by
    rw [List.filter_eq_self]
    intro t ht
    simp [kind_of_mem_sideBySide ht]
  rw [quotesOutsideComments, hall, textOf_sideBySide]

/-- **Quotes.** The quotes outside comments open and close strings in turn. -/
lemma Scans.quotes {column : Nat} {mode final : Mode} {line : Text} {ts : List Token}
    (h : Scans column mode line ts final) :
    (quotesOutsideComments ts + openStrings mode) % 2 = openStrings final := by
  induction h with
  | done => rfl
  | @lexeme column w rest kind next final ts h _ ih =>
    rcases h.sign_cases with ⟨-, rfl, rfl⟩ | ⟨rfl, rfl, rfl⟩ | ⟨hkind, rfl, hquote, -⟩
    · exact ih
    · rw [quotesOutsideComments_cons (by simp)]
      show (1 + _ + 0) % 2 = _
      rw [← ih]
      show (1 + _ + 0) % 2 = (_ + 1) % 2
      omega
    · rw [quotesOutsideComments_cons hkind, List.count_eq_zero_of_not_mem hquote, Nat.zero_add]
      exact ih
  | @text column u rest final ts _ hnone _ _ ih =>
    have hquote := hnone.not_mem fun _ => ⟨_, _, .quote⟩
    rw [quotesOutsideComments_cons (by simp), List.count_eq_zero_of_not_mem hquote, Nat.zero_add]
    exact ih
  | @closed column s rest final ts hs _ ih =>
    rw [quotesOutsideComments_append, quotesOutsideComments_sideBySide, List.flatten_append,
      List.count_append, stringPieces, List.flatten_splitBy, List.count_eq_zero_of_not_mem hs, ← ih]
    show (0 + 1 + _ + 1) % 2 = (_ + 0) % 2
    omega
  | @unclosed column s hs =>
    rw [quotesOutsideComments_sideBySide, stringPieces, List.flatten_splitBy,
      List.count_eq_zero_of_not_mem hs]
    rfl

/-! ## Comments -/

lemma code_string_append {s : Text} (hs : '"' ∉ s) (rest : Text) :
    code .string (s ++ rest) = s ++ code .string rest := by
  induction s with
  | nil => rfl
  | cons c cs ih =>
    rw [List.mem_cons, not_or] at hs
    rw [List.cons_append, code, if_neg (Ne.symm hs.1), ih hs.2, List.cons_append]

/-- No comment starts where no two percent signs stand together. -/
lemma code_root_append {u rest : Text} (hquote : '"' ∉ u)
    (hpercent : ∀ front back, u = front ++ back → back ≠ [] → ¬['%', '%'] <+: back ++ rest) :
    code .root (u ++ rest) = u ++ code .root rest := by
  induction u with
  | nil => rfl
  | cons c cs ih =>
    rw [List.mem_cons, not_or] at hquote
    have hhere : ¬['%', '%'].isPrefixOf (c :: (cs ++ rest)) = true := by
      rw [List.isPrefixOf_iff_prefix]
      exact hpercent [] (c :: cs) rfl (List.cons_ne_nil c cs)
    rw [List.cons_append, code, if_neg hhere, if_neg (Ne.symm hquote.1), ih hquote.2,
      List.cons_append]
    intro front back heq hback
    exact hpercent (c :: front) back (by rw [heq, List.cons_append]) hback

/-- No comment starts in a text without percent signs. -/
lemma not_isPrefix_of_not_mem {u rest : Text} (hu : '%' ∉ u) (front back : Text)
    (heq : u = front ++ back) (hback : back ≠ []) : ¬['%', '%'] <+: back ++ rest := by
  obtain ⟨c, cs, rfl⟩ := List.exists_cons_of_ne_nil hback
  intro h
  rw [List.cons_append, List.cons_prefix_cons] at h
  exact hu (by rw [heq, h.1]; simp)

/-- In a line without line feeds two percent signs outside strings start a comment. -/
lemma applies_of_isPrefix {u : Text} (hline : '\n' ∉ u) (h : ['%', '%'] <+: u) : Applies u := by
  obtain ⟨body, rfl⟩ := h
  have hbody : '\n' ∉ body := fun hmem => hline (List.mem_append_right _ hmem)
  exact ⟨'%' :: '%' :: body, [], .comment, .root, (List.append_nil _).symm,
    .comment (.mk hbody (.inl rfl))⟩

/-- In a line without line feeds no comment starts in text that is passed over. -/
lemma IsPassedOver.not_isPrefix {u rest : Text} (h : IsPassedOver u rest) (hline : '\n' ∉ u ++ rest)
    (front back : Text) (heq : u = front ++ back) (hback : back ≠ []) :
    ¬['%', '%'] <+: back ++ rest := by
  intro hpercent
  refine h front back heq hback (applies_of_isPrefix ?_ hpercent)
  rw [heq, List.append_assoc] at hline
  exact fun hmem => hline (List.mem_append_right front hmem)

/-- Behind a comment nothing is left of a line without line feeds. -/
lemma IsComment.rest_eq_nil {w rest : Text} (h : IsComment w rest) (hline : '\n' ∉ w ++ rest) :
    rest = [] := by
  cases h with
  | mk _ hend =>
    rcases hend with hnil | hfeed
    · exact hnil
    · exact absurd (by simp [hfeed]) hline

/-- Whether a line from a column on consists of some characters, none of them in a comment, and of
the comment behind them. -/
def IsCommented (column : Nat) (front line : Text) (ts : List Token) : Prop :=
  ∃ us comment, line = front ++ comment ∧ ts = us ++ commentAt (column + front.length) comment ∧
    textOf us = front ∧ ∀ t ∈ us, t.kind ≠ .comment

lemma IsCommented.append {column : Nat} {w front line : Text} {u ts : List Token}
    (h : IsCommented (column + w.length) front line ts) (htext : textOf u = w)
    (hkind : ∀ t ∈ u, t.kind ≠ .comment) :
    IsCommented column (w ++ front) (w ++ line) (u ++ ts) := by
  obtain ⟨us, comment, hline, hts, hus, hkinds⟩ := h
  refine ⟨u ++ us, comment, by rw [hline, List.append_assoc], ?_,
    by rw [textOf_append, htext, hus],
    fun t ht => (List.mem_append.1 ht).elim (hkind t) (hkinds t)⟩
  rw [hts, List.append_assoc, List.length_append, Nat.add_assoc]

/-- A comment is all that there is of a line without line feeds. -/
lemma IsComment.isCommented {column : Nat} {w rest : Text} {ts : List Token} {final : Mode}
    (h : IsComment w rest) (hline : '\n' ∉ w ++ rest)
    (hscans : Scans (column + w.length) .root rest ts final) :
    IsCommented column (code .root (w ++ rest)) (w ++ rest) (⟨column, w, .comment⟩ :: ts) := by
  obtain rfl := h.rest_eq_nil hline
  cases h with
  | @mk body _ _ _ =>
    have hnothing := classifyFrom_of_scans hscans
    rw [classifyFrom, Prod.mk.injEq] at hnothing
    rw [← hnothing.1]
    exact ⟨[], '%' :: '%' :: body, List.append_nil _, rfl, rfl, by simp⟩

/-- **Comments.** A line without line feeds is its code, in which no comment stands, and the comment
behind it. -/
lemma Scans.isCommented {column : Nat} {mode final : Mode} {line : Text} {ts : List Token}
    (h : Scans column mode line ts final) (hline : '\n' ∉ line) :
    IsCommented column (code mode line) line ts := by
  induction h with
  | done => exact ⟨[], [], rfl, rfl, rfl, by simp⟩
  | @lexeme column w rest kind next final ts h hscans ih =>
    have hrest := ih fun hmem => hline (List.mem_append_right w hmem)
    rcases h.sign_cases with ⟨hcomment, rfl, rfl⟩ | ⟨rfl, rfl, rfl⟩ |
      ⟨hkind, rfl, hquote, hpercent⟩
    · exact hcomment.isCommented hline hscans
    · exact hrest.append (u := [_]) (by simp) (by simp)
    · rw [code_root_append hquote (not_isPrefix_of_not_mem hpercent)]
      exact hrest.append (u := [_]) (by simp) (by simpa using hkind)
  | @text column u rest final ts _ hnone _ _ ih =>
    have hrest := ih fun hmem => hline (List.mem_append_right u hmem)
    rw [code_root_append (hnone.not_mem fun _ => ⟨_, _, .quote⟩)]
    · exact hrest.append (u := [_]) (by simp) (by simp)
    · exact hnone.not_isPrefix hline
  | @closed column s rest final ts hs _ ih =>
    have hrest := ih fun hmem => hline (by simp [hmem])
    have hcode : code .string (s ++ '"' :: rest) = (s ++ ['"']) ++ code .root rest := by
      rw [code_string_append hs, List.append_assoc]
      rfl
    rw [hcode, List.append_cons s '"' rest]
    refine IsCommented.append (by simpa [Nat.add_assoc] using hrest) ?_ ?_
    · rw [textOf_sideBySide, List.flatten_append, stringPieces, List.flatten_splitBy]
      rfl
    · intro t ht
      rw [kind_of_mem_sideBySide ht]
      simp
  | @unclosed column s hs =>
    have hcode : code .string s = s := by
      have h := code_string_append hs []
      rwa [List.append_nil, code, List.append_nil] at h
    rw [hcode]
    refine ⟨_, [], (List.append_nil s).symm, (List.append_nil _).symm, ?_, ?_⟩
    · rw [textOf_sideBySide, stringPieces, List.flatten_splitBy]
    · intro t ht
      rw [kind_of_mem_sideBySide ht]
      simp

/-- **The lexer.** The tokens of a line, and the mode behind it, are those that are read from left
to right. A string is open behind the line exactly when the quotes outside comments, and the string
that the line starts in, are odd in number. A line without line feeds is its code, in which no
comment stands, and one comment behind it, if there is anything left. -/
theorem classify_eq_iff_scans (mode : Mode) (line : Text) :
    (∀ ts final, classify mode line = (ts, final) ↔ Scans 0 mode line ts final) ∧
      ((classify mode line).2 = .string ↔
        (quotesOutsideComments (classify mode line).1 + openStrings mode) % 2 = 1) ∧
      ('\n' ∉ line → IsCommented 0 (code mode line) line (classify mode line).1) := by
  have hscans := scans_classifyFrom 0 mode line
  refine ⟨fun ts final => ⟨?_, classifyFrom_of_scans⟩, ?_, hscans.isCommented⟩
  · intro h
    rwa [← classify, h] at hscans
  · rw [classify, hscans.quotes]
    cases (classifyFrom 0 mode line).2 <;> simp [openStrings]

/-- Percent signs in a string start no comment, and a quote in a comment opens no string. -/
theorem classify_eq_iff_scans_quoted :
    '\n' ∉ "A[\"%%\"] %% \"".toList ∧
      IsCommented 0 "A[\"%%\"] ".toList "A[\"%%\"] %% \"".toList
        (classify .root "A[\"%%\"] %% \"".toList).1 ∧
      (classify .root "A[\"%%\"] %% \"".toList).2 = .root := by
  have hline : '\n' ∉ "A[\"%%\"] %% \"".toList := by decide
  have hcode : code .root "A[\"%%\"] %% \"".toList = "A[\"%%\"] ".toList := by decide
  obtain ⟨-, hmode, hcommented⟩ := classify_eq_iff_scans .root "A[\"%%\"] %% \"".toList
  have hroot : ¬(classify .root "A[\"%%\"] %% \"".toList).2 = .string := by
    rw [hmode]
    decide +kernel
  rw [hcode] at hcommented
  refine ⟨hline, hcommented hline, ?_⟩
  cases h : (classify .root "A[\"%%\"] %% \"".toList).2 with
  | root => rfl
  | string => exact absurd h hroot

end Mermaid.Lexer
