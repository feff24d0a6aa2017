import Mermaid.Proofs.Lexer.Comments

/-!
# The strings of a text

A string goes from its opening quote to the next quote, over as many lines as it takes, or else to
the end of the text. The tokens of a text tell its strings: outside strings a string token is an
opening quote, and inside a string the token that is a quote is the closing one.

* `Lexer.literals` collects the strings of a text from its tokens;
* `Lexer.cut` collects the strings of one line from its characters;
* `Lexer.stringsOf_classify` says that both come to the same;
* `Lexer.cut_trim` says what trimming a line does to its strings.
-/

namespace Mermaid.Lexer

open Text (isBlank isBlankText)

/-- A string of a text with its quotes: the number of the line that it starts in, and its characters
in this line and in each line below that it goes on to. -/
structure Literal where
  line : Nat
  parts : List Text
  deriving DecidableEq

/-- The characters of a string, with a line feed where it goes on to the next line. -/
def Literal.text (l : Literal) : Text := Text.joinLines l.parts

/-- The strings of one line: those that end in it, and the one that goes on below, if there is one.
The first of them may have started above. -/
structure LineStrings where
  ended : List Text
  pending : Option Text
  deriving DecidableEq

namespace LineStrings

/-- Characters that stand in front of those of the first string. -/
def addFront (w : Text) : LineStrings → LineStrings
  | ⟨[], pending⟩ => ⟨[], pending.map (w ++ ·)⟩
  | ⟨s :: ended, pending⟩ => ⟨(w ++ s) :: ended, pending⟩

/-- Characters that stand behind those of the last string, if it goes on below. -/
def addBack (w : Text) (l : LineStrings) : LineStrings := ⟨l.ended, l.pending.map (· ++ w)⟩

/-- A string that ends in front of all others. -/
def addEnded (s : Text) (l : LineStrings) : LineStrings := ⟨s :: l.ended, l.pending⟩

/-- The strings without the blanks around them. -/
def trimmed (l : LineStrings) : LineStrings := ⟨l.ended.map Text.trim, l.pending.map Text.trim⟩

/-- The mode behind the line. -/
def mode (l : LineStrings) : Mode := if l.pending.isSome then .string else .root

end LineStrings

/-- The strings that some tokens of a line that starts in a mode belong to. -/
def stringsOf : Mode → List Token → LineStrings
  | .root, [] => ⟨[], none⟩
  | .string, [] => ⟨[], some []⟩
  | .root, t :: ts =>
    if t.kind = .string then (stringsOf .string ts).addFront t.text else stringsOf .root ts
  | .string, t :: ts =>
    if t.text = ['"'] then (stringsOf .root ts).addEnded t.text
    else (stringsOf .string ts).addFront t.text

/-- The strings of a line with some number over those of the lines below it, the first of which goes
on with the string that the line leaves open. -/
def LineStrings.over (number : Nat) (l : LineStrings) (below : List Literal) : List Literal :=
  l.ended.map (fun s => ⟨number, [s]⟩) ++
    match l.pending with
    | none => below
    | some s => below.modifyHead fun b => ⟨number, s :: b.parts⟩

/-- The strings of some lines, the first of which has some number and starts in some mode. A string
that started above comes first, with the characters that it has in these lines. -/
def literalsFrom : Mode → Nat → List (List Token) → List Literal
  | .root, _, [] => []
  | .string, number, [] => [⟨number, []⟩]
  | mode, number, ts :: rest =>
    (stringsOf mode ts).over number (literalsFrom (stringsOf mode ts).mode (number + 1) rest)

/-- The strings of a text, by its tokens. -/
def literals (t : Text) : List Literal := literalsFrom .root 1 (tokenize t)

/-- The strings of a line that starts in a mode, by its characters. -/
def cut : Mode → Text → LineStrings
  | .root, [] => ⟨[], none⟩
  | .string, [] => ⟨[], some []⟩
  | .root, c :: cs =>
    if ['%', '%'].isPrefixOf (c :: cs) then ⟨[], none⟩
    else if c = '"' then (cut .string cs).addFront [c]
    else cut .root cs
  | .string, c :: cs =>
    if c = '"' then (cut .root cs).addEnded [c] else (cut .string cs).addFront [c]

/-! ## Strings of a line -/

namespace LineStrings

@[simp] lemma addFront_nil (l : LineStrings) : l.addFront [] = l := by
  obtain ⟨_ | ⟨s, ended⟩, pending⟩ := l
  · cases pending <;> rfl
  · rfl

lemma addFront_addFront (v w : Text) (l : LineStrings) :
    (l.addFront w).addFront v = l.addFront (v ++ w) := by
  obtain ⟨_ | ⟨s, ended⟩, pending⟩ := l
  · cases pending <;> simp [addFront]
  · simp [addFront]

@[simp] lemma mode_addFront (w : Text) (l : LineStrings) : (l.addFront w).mode = l.mode := by
  obtain ⟨_ | ⟨s, ended⟩, pending⟩ := l
  · cases pending <;> rfl
  · rfl

@[simp] lemma mode_trimmed (l : LineStrings) : l.trimmed.mode = l.mode := by
  obtain ⟨ended, pending⟩ := l
  cases pending <;> rfl

@[simp] lemma mode_addEnded (s : Text) (l : LineStrings) : (l.addEnded s).mode = l.mode := rfl

lemma addFront_addBack (v w : Text) (l : LineStrings) :
    (l.addBack w).addFront v = (l.addFront v).addBack w := by
  obtain ⟨_ | ⟨s, ended⟩, pending⟩ := l
  · cases pending <;> simp [addFront, addBack]
  · rfl

/-- Blanks in front of the first string are trimmed. -/
lemma trimmed_addFront {w : Text} (hw : isBlankText w = true) (l : LineStrings) :
    (l.addFront w).trimmed = l.trimmed := by
  obtain ⟨_ | ⟨s, ended⟩, pending⟩ := l
  · cases pending <;> simp [addFront, trimmed, Text.trim_append_left hw]
  · simp [addFront, trimmed, Text.trim_append_left hw]

/-- Blanks behind the last string are trimmed. -/
lemma trimmed_addBack {w : Text} (hw : isBlankText w = true) (l : LineStrings) :
    (l.addBack w).trimmed = l.trimmed := by
  obtain ⟨ended, pending⟩ := l
  cases pending <;> simp [addBack, trimmed, Text.trim_append_right _ hw]

end LineStrings

/-- Inside a string the characters up to the next quote belong to it. -/
lemma cut_string_append {s : Text} (hs : '"' ∉ s) (rest : Text) :
    cut .string (s ++ rest) = (cut .string rest).addFront s := by
  induction s with
  | nil => rw [List.nil_append, LineStrings.addFront_nil]
  | cons c cs ih =>
    rw [List.mem_cons, not_or] at hs
    rw [List.cons_append, cut, if_neg (Ne.symm hs.1), ih hs.2, LineStrings.addFront_addFront]
    rfl

/-- The quote that ends a string. -/
lemma cut_string_closed {s : Text} (hs : '"' ∉ s) (rest : Text) :
    cut .string (s ++ '"' :: rest) = (cut .root rest).addEnded (s ++ ['"']) := by
  rw [cut_string_append hs, cut, if_pos rfl]
  rfl

/-- Characters outside strings belong to none, if there are no quotes and no comment among them. -/
lemma cut_root_append {u rest : Text} (hquote : '"' ∉ u)
    (hpercent : ∀ front back, u = front ++ back → back ≠ [] → ¬['%', '%'] <+: back ++ rest) :
    cut .root (u ++ rest) = cut .root rest := by
  induction u with
  | nil => rfl
  | cons c cs ih =>
    rw [List.mem_cons, not_or] at hquote
    have hhere : ¬['%', '%'].isPrefixOf (c :: (cs ++ rest)) = true := by
      rw [List.isPrefixOf_iff_prefix]
      exact hpercent [] (c :: cs) rfl (List.cons_ne_nil c cs)
    rw [List.cons_append, cut, if_neg hhere, if_neg (Ne.symm hquote.1), ih hquote.2]
    intro front back heq hback
    exact hpercent (c :: front) back (by rw [heq, List.cons_append]) hback

/-! ## The tokens of a line -/

/-- The pieces of what stands inside a string are no quotes. -/
lemma stringsOf_sideBySide (column : Nat) {ws : List Text} (hws : ∀ w ∈ ws, '"' ∉ w)
    (ts : List Token) :
    stringsOf .string (sideBySide .string column ws ++ ts) =
      (stringsOf .string ts).addFront ws.flatten := by
  induction ws generalizing column with
  | nil => simp [sideBySide]
  | cons w ws ih =>
    obtain ⟨hw, hrest⟩ := List.forall_mem_cons.1 hws
    have hne : w ≠ ['"'] := by
      rintro rfl
      exact hw (List.mem_singleton.2 rfl)
    rw [sideBySide, List.cons_append, stringsOf, if_neg hne, ih _ hrest,
      LineStrings.addFront_addFront, List.flatten_cons]

lemma not_mem_stringPieces {s : Text} (hs : '"' ∉ s) : ∀ w ∈ stringPieces s, '"' ∉ w := by
  intro w hw hmem
  have hflatten : '"' ∈ (stringPieces s).flatten := List.mem_flatten.2 ⟨w, hw, hmem⟩
  rw [stringPieces, List.flatten_splitBy] at hflatten
  exact hs hflatten

/-- What stands inside a string is put together from its pieces. -/
lemma stringsOf_stringPieces (column : Nat) {s : Text} (hs : '"' ∉ s) (ts : List Token) :
    stringsOf .string (sideBySide .string column (stringPieces s) ++ ts) =
      (stringsOf .string ts).addFront s := by
  rw [stringsOf_sideBySide column (not_mem_stringPieces hs), stringPieces, List.flatten_splitBy]

/-- The tokens of a line without line feeds have the strings that its characters have, and the mode
behind the line is the one behind its strings. -/
lemma Scans.stringsOf_eq {column : Nat} {mode final : Mode} {line : Text} {ts : List Token}
    (h : Scans column mode line ts final) (hline : '\n' ∉ line) :
    stringsOf mode ts = cut mode line ∧ final = (cut mode line).mode := by
  induction h with
  | done => exact ⟨rfl, rfl⟩
  | @lexeme column w rest kind next final ts h hscans ih =>
    obtain ⟨hstrings, hfinal⟩ := ih fun hmem => hline (List.mem_append_right w hmem)
    rcases h.sign_cases with ⟨hcomment, rfl, rfl⟩ | ⟨rfl, rfl, rfl⟩ |
      ⟨hkind, rfl, hquote, hpercent⟩
    · -- the comment is the end of the line
      obtain rfl := hcomment.rest_eq_nil hline
      cases hcomment with
      | @mk body _ _ _ =>
        have hcut : cut .root ('%' :: '%' :: body ++ []) = ⟨[], none⟩ := by
          rw [List.append_nil, cut, if_pos (by simp)]
        rw [stringsOf, if_neg (by simp), hstrings, hcut]
        exact ⟨rfl, hfinal⟩
    · have hcut : cut .root (['"'] ++ rest) = (cut .string rest).addFront ['"'] := by
        rw [List.singleton_append, cut, if_neg (by simp), if_pos rfl]
      rw [stringsOf, if_pos rfl, hstrings, hcut, LineStrings.mode_addFront]
      exact ⟨rfl, hfinal⟩
    · have hcut : cut .root (w ++ rest) = cut .root rest :=
        cut_root_append hquote (not_isPrefix_of_not_mem hpercent)
      have hstring : kind ≠ .string := by
        cases h with
        | comment _ => simp
        | delimiter _ => simp
        | word _ _ => split <;> simp
      rw [stringsOf, if_neg hstring, hstrings, hcut]
      exact ⟨rfl, hfinal⟩
  | @text column u rest final ts _ hnone _ _ ih =>
    obtain ⟨hstrings, hfinal⟩ := ih fun hmem => hline (List.mem_append_right u hmem)
    have hquote := hnone.not_mem fun _ => ⟨_, _, .quote⟩
    have hcut := cut_root_append hquote (hnone.not_isPrefix hline)
    rw [stringsOf, if_neg (by simp), hstrings, hcut]
    exact ⟨rfl, hfinal⟩
  | @closed column s rest final ts hs _ ih =>
    obtain ⟨hstrings, hfinal⟩ := ih fun hmem => hline (by simp [hmem])
    rw [sideBySide_append, List.append_assoc, stringsOf_stringPieces column hs, sideBySide,
      sideBySide, List.singleton_append, stringsOf, if_pos rfl, hstrings, cut_string_closed hs]
    exact ⟨rfl, hfinal⟩
  | @unclosed column s hs =>
    have htokens := stringsOf_stringPieces column hs []
    have hcut := cut_string_append hs []
    rw [List.append_nil] at htokens hcut
    rw [htokens, hcut]
    exact ⟨rfl, rfl⟩

/-- **Strings of a line.** The tokens of a line tell the strings of its characters, and the mode
behind it. -/
lemma stringsOf_classify (mode : Mode) {line : Text} (hline : '\n' ∉ line) :
    stringsOf mode (classify mode line).1 = cut mode line ∧
      (classify mode line).2 = (cut mode line).mode :=
  (scans_classifyFrom 0 mode line).stringsOf_eq hline

/-- The strings of some lines are those of the first line over those of the lines below it. -/
lemma literalsFrom_cons (mode : Mode) (number : Nat) {line : Text} (hline : '\n' ∉ line)
    (ls : List Text) :
    literalsFrom mode number (tokenizeLines mode (line :: ls)) =
      (cut mode line).over number (literalsFrom (cut mode line).mode (number + 1)
        (tokenizeLines (cut mode line).mode ls)) := by
  obtain ⟨hstrings, hmode⟩ := stringsOf_classify mode hline
  have htokens : tokenizeLines mode (line :: ls) =
      (classify mode line).1 :: tokenizeLines (cut mode line).mode ls := by
    rw [← hmode]
    rfl
  rw [htokens, ← hstrings]
  cases mode <;> rfl

/-! ## Blanks around a line -/

/-- Blanks are no quotes, and no comment starts at them. -/
lemma not_mem_of_isBlankText {back : Text} (h : isBlankText back = true) {c : Char}
    (hc : isBlank c = false) : c ∉ back := by
  intro hmem
  exact ne_of_isBlank (List.all_eq_true.1 h c hmem) c hc rfl

/-- Blanks in front of a line belong to the string that it starts in. -/
lemma cut_append_left {front : Text} (h : isBlankText front = true) (u : Text) :
    cut .root (front ++ u) = cut .root u ∧
      cut .string (front ++ u) = (cut .string u).addFront front := by
  have hquote := not_mem_of_isBlankText h (c := '"') (by decide)
  have hpercent := not_mem_of_isBlankText h (c := '%') (by decide)
  exact ⟨cut_root_append hquote (not_isPrefix_of_not_mem hpercent), cut_string_append hquote u⟩

/-- Blanks behind a line belong to the string that goes on below. -/
lemma cut_append_right (mode : Mode) (u : Text) {back : Text} (h : isBlankText back = true) :
    cut mode (u ++ back) = (cut mode u).addBack back := by
  induction u generalizing mode with
  | nil =>
    obtain ⟨hroot, hstring⟩ := cut_append_left h []
    rw [List.append_nil] at hroot hstring
    cases mode with
    | root => exact hroot
    | string =>
      rw [List.nil_append, hstring]
      show LineStrings.mk [] (some (back ++ [])) = _
      rw [List.append_nil]
      rfl
  | cons c cs ih =>
    have hcomment := isPrefixOf_append_iff (List.cons_ne_nil c cs) h
    rw [List.cons_append] at hcomment ⊢
    cases mode with
    | root =>
      rw [cut, cut, ih, ih]
      simp only [hcomment]
      split
      · rfl
      · split
        · rw [LineStrings.addFront_addBack]
        · rfl
    | string =>
      rw [cut, cut, ih, ih]
      split
      · rfl
      · rw [LineStrings.addFront_addBack]

@[simp] lemma isBlank_quote : isBlank '"' = false := by decide

/-- There are no blanks around a string that ends in the line that it starts in. -/
lemma trim_quoted (s : Text) : Text.trim ('"' :: (s ++ ['"'])) = '"' :: (s ++ ['"']) := by
  rw [Text.trim_eq_self_iff]
  simp [List.getLast?_cons]

/-- A string goes on below, or it ends at the next quote. -/
lemma cut_string_cases (u : Text) : cut .string u = ⟨[], some u⟩ ∨
    ∃ s rest, u = s ++ '"' :: rest ∧ cut .string u = (cut .root rest).addEnded (s ++ ['"']) := by
  by_cases hquote : '"' ∈ u
  · obtain ⟨s, rest, rfl, hs⟩ := List.eq_append_cons_of_mem hquote
    exact .inr ⟨s, rest, rfl, cut_string_closed hs rest⟩
  · have hcut := cut_string_append hquote []
    rw [List.append_nil] at hcut
    exact .inl (by rw [hcut]; simp [cut, LineStrings.addFront])

lemma cut_string_ne (u : Text) : cut .string u ≠ ⟨[], none⟩ := by
  rcases cut_string_cases u with hopen | ⟨s, rest, -, hclosed⟩
  · rw [hopen]
    simp
  · rw [hclosed]
    simp [LineStrings.addEnded]

/-- The strings that start in a line without trailing blanks have no blanks around them. -/
lemma trimmed_cut_root {u : Text} (hu : ∀ c ∈ u.getLast?, isBlank c = false) :
    (cut .root u).trimmed = cut .root u := by
  induction hn : u.length using Nat.strong_induction_on generalizing u with
  | _ n ih =>
  cases u with
  | nil => rfl
  | cons c cs =>
    rw [List.length_cons] at hn
    have hlast : ∀ front rest, cs = front ++ rest → ∀ c ∈ rest.getLast?, isBlank c = false := by
      rintro front rest rfl d hd
      refine hu d ?_
      rw [← List.cons_append]
      exact List.mem_getLast?_append_of_mem_getLast? hd
    rw [cut]
    split
    · rfl
    · split
      · next hc =>
        subst hc
        rcases cut_string_cases cs with hopen | ⟨s, rest, rfl, hclosed⟩
        · have htrim : Text.trim ('"' :: cs) = '"' :: cs := by
            rw [Text.trim_eq_self_iff]
            exact ⟨by simp, hu⟩
          rw [hopen]
          show LineStrings.mk [] (some (Text.trim ('"' :: cs))) = _
          rw [htrim]
          rfl
        · have hrest := ih rest.length (by simp at hn; omega)
            (hlast (s ++ ['"']) rest (List.append_cons s '"' rest)) rfl
          rw [hclosed]
          show ((cut .root rest).trimmed).addEnded (Text.trim ('"' :: (s ++ ['"']))) = _
          rw [hrest, trim_quoted]
          rfl
      · exact ih cs.length (by omega) (hlast [] cs rfl) rfl

/-- The strings of a line trimmed are those of the line, without the blanks around them. -/
lemma cut_trim (mode : Mode) (raw : Text) :
    cut mode (Text.trim raw) = (cut mode raw).trimmed := by
  obtain ⟨front, back, hraw, -, hfront, hback⟩ := Text.eq_append_trim_append raw
  have htrimmed := Text.trim_trim raw
  generalize Text.trim raw = u at hraw htrimmed ⊢
  obtain ⟨-, hlast⟩ := Text.trim_eq_self_iff.1 htrimmed
  obtain ⟨hroot, hstring⟩ := cut_append_left hfront (u ++ back)
  rw [hraw]
  cases mode with
  | root =>
    rw [hroot, cut_append_right _ _ hback, LineStrings.trimmed_addBack hback,
      trimmed_cut_root hlast]
  | string =>
    rw [hstring, LineStrings.trimmed_addFront hfront, cut_append_right _ _ hback,
      LineStrings.trimmed_addBack hback]
    rcases cut_string_cases u with hopen | ⟨s, rest, rfl, hclosed⟩
    · rw [hopen]
      show _ = LineStrings.mk [] (some (Text.trim u))
      rw [htrimmed]
    · -- the string from above ends with a quote, and starts as the line does
      have hs : Text.trim (s ++ ['"']) = s ++ ['"'] := by
        rw [Text.trim_eq_self_iff] at htrimmed ⊢
        refine ⟨?_, by simp⟩
        intro c hc
        refine htrimmed.1 c ?_
        cases s <;> exact hc
      have hrest : (cut .root rest).trimmed = cut .root rest := by
        refine trimmed_cut_root fun c hc => hlast c ?_
        rw [List.append_cons]
        exact List.mem_getLast?_append_of_mem_getLast? hc
      rw [hclosed]
      show _ = ((cut .root rest).trimmed).addEnded (Text.trim (s ++ ['"']))
      rw [hrest, hs]

end Mermaid.Lexer
