import Mathlib.Data.List.Chain
import Mermaid.Proofs.Lexer.Blanks

/-!
# The tokens of a line tile it

No character of a line is lost, and none belongs to two tokens: the tokens of a line lie side by
side from its first character to its last. Text is only left over outside strings, and always as
one token up to the next place where a rule applies.

A lexer can be stopped in front of any token and started again there, in the mode that the quotes
before it lead to (`Lexer.classifyFrom_of_append`). All other facts about a token are read off the
first piece of what is left at that place.
-/

namespace Mermaid

/-- The mode on the other side of a quote. -/
def Mode.other : Mode → Mode
  | .root => .string
  | .string => .root

/-- The mode behind a token: a quote that belongs to a string opens or closes it. -/
def Token.modeAfter (mode : Mode) (t : Token) : Mode :=
  if t.kind = .string ∧ t.text = ['"'] then mode.other else mode

/-- The mode behind some tokens, the first of which starts in the given one. -/
def modeBehind (mode : Mode) (ts : List Token) : Mode := ts.foldl Token.modeAfter mode

/-- The characters of some tokens. -/
def textOf (ts : List Token) : Text := ts.flatMap Token.text

@[simp] lemma modeBehind_nil (mode : Mode) : modeBehind mode [] = mode := rfl

@[simp] lemma modeBehind_cons (mode : Mode) (t : Token) (ts : List Token) :
    modeBehind mode (t :: ts) = modeBehind (t.modeAfter mode) ts := rfl

lemma modeBehind_concat (mode : Mode) (ts : List Token) (t : Token) :
    modeBehind mode (ts ++ [t]) = t.modeAfter (modeBehind mode ts) := by
  rw [modeBehind, List.foldl_append]
  rfl

@[simp] lemma textOf_nil : textOf [] = [] := rfl

@[simp] lemma textOf_cons (t : Token) (ts : List Token) : textOf (t :: ts) = t.text ++ textOf ts :=
  List.flatMap_cons

@[simp] lemma textOf_append (ts us : List Token) : textOf (ts ++ us) = textOf ts ++ textOf us :=
  List.flatMap_append

/-- Whether tokens tile a line that starts in a mode, and ends in another. -/
structure Tiles (mode : Mode) (line : Text) (ts : List Token) (final : Mode) : Prop where
  /-- Nothing is lost, and nothing is read twice. -/
  whole : textOf ts = line
  ne_nil : ∀ t ∈ ts, t.text ≠ []
  first : ∀ t ∈ ts.head?, t.start = 0
  /-- Each token starts where the one before it stops. -/
  contiguous : ts.IsChain fun t u => t.stop = u.start
  /-- Text is not cut where no rule applies. -/
  maximal : ts.IsChain fun t u => ¬(t.kind = .text ∧ u.kind = .text)
  /-- Inside a string everything belongs to the string. -/
  inside : ∀ before t after, ts = before ++ t :: after → modeBehind mode before = .string →
    t.kind = .string
  final : modeBehind mode ts = final

namespace Lexer

/-! ## The first piece -/

lemma wordClass_ne (w : Text) : wordClass w ≠ .string ∧ wordClass w ≠ .text := by
  unfold wordClass
  split <;> simp

/-- Only a quote leads out of the root, and it is a string token. -/
lemma next_rootLexeme? {u : Text} {l : Lexeme} (h : rootLexeme? u = some l) :
    l.kind ≠ .text ∧ l.next = if l.kind = .string ∧ l.text = ['"'] then .string else .root := by
  unfold rootLexeme? at h
  split at h
  · obtain rfl := Option.some.inj h
    exact ⟨by simp, by simp⟩
  · split at h
    · obtain rfl := Option.some.inj h
      exact ⟨by simp, by simp⟩
    · split at h
      · obtain rfl := Option.some.inj h
        exact ⟨by simp, by simp⟩
      · split at h
        · next c w _ =>
          obtain rfl := Option.some.inj h
          exact ⟨(wordClass_ne _).2, by simp [(wordClass_ne (c :: w)).1]⟩
        · cases h

/-- Only a quote leads out of a string, and everything in it is a string token. -/
lemma next_stringLexeme? {u : Text} {l : Lexeme} (h : stringLexeme? u = some l) :
    l.kind = .string ∧ l.next = if l.text = ['"'] then .root else .string := by
  unfold stringLexeme? at h
  split at h
  · cases h
  · obtain rfl := Option.some.inj h
    exact ⟨rfl, rfl⟩
  · obtain rfl := Option.some.inj h
    exact ⟨rfl, by simp⟩
  · next c rest hquote _ =>
    obtain rfl := Option.some.inj h
    have hne : c ≠ '"' := by
      rintro rfl
      exact hquote rfl
    exact ⟨rfl, by simp [hne]⟩

/-- The mode behind the first piece of a line is the mode behind it as a token. -/
lemma next_piece (mode : Mode) (u : Text) (column : Nat) :
    (piece mode u).next =
      Token.modeAfter mode ⟨column, (piece mode u).text, (piece mode u).kind⟩ := by
  cases h : lexeme? mode u with
  | none =>
    rw [piece_of_no_lexeme? mode h]
    simp [Token.modeAfter]
  | some l =>
    rw [piece_of_lexeme? mode h, Token.modeAfter]
    cases mode with
    | root => exact (next_rootLexeme? h).2
    | string =>
      obtain ⟨hkind, hnext⟩ := next_stringLexeme? h
      simp [hkind, hnext, Mode.other]

/-- Inside a string the first piece belongs to the string. -/
lemma kind_piece_string {u : Text} (hu : u ≠ []) : (piece .string u).kind = .string := by
  obtain ⟨l, hl, hkind, -⟩ := exists_stringLexeme? hu
  rw [piece_of_lexeme? .string hl, hkind]

/-- A piece is text exactly where no rule applies. -/
lemma kind_piece_eq_text_iff (mode : Mode) (u : Text) :
    (piece mode u).kind = .text ↔ lexeme? mode u = none := by
  cases h : lexeme? mode u with
  | none => simp [piece_of_no_lexeme? mode h]
  | some l =>
    rw [piece_of_lexeme? mode h]
    cases mode with
    | root => simp [(next_rootLexeme? h).1]
    | string => simp [(next_stringLexeme? h).1]

/-- A rule applies behind the characters to which none applies, if anything is left there. -/
lemma isSome_lexeme?_drop_unmatched (mode : Mode) (u : Text)
    (hrest : u.drop (unmatched mode u).length ≠ []) :
    (lexeme? mode (u.drop (unmatched mode u).length)).isSome = true := by
  induction u with
  | nil => exact absurd rfl hrest
  | cons c cs ih =>
    cases hsome : (lexeme? mode (c :: cs)).isSome with
    | true =>
      rw [unmatched, if_pos hsome]
      exact hsome
    | false =>
      have hlonger : unmatched mode (c :: cs) = c :: unmatched mode cs := by simp [unmatched, hsome]
      rw [hlonger] at hrest ⊢
      exact ih hrest

/-- What follows text is not text. -/
lemma kind_piece_drop_ne_text (mode : Mode) {u : Text} (htext : (piece mode u).kind = .text)
    (hrest : u.drop (piece mode u).text.length ≠ []) :
    (piece (piece mode u).next (u.drop (piece mode u).text.length)).kind ≠ .text := by
  have hnone := (kind_piece_eq_text_iff mode u).1 htext
  rw [piece_of_no_lexeme? mode hnone] at hrest ⊢
  rw [Ne, kind_piece_eq_text_iff]
  have hsome := isSome_lexeme?_drop_unmatched mode u hrest
  intro hnone'
  rw [hnone'] at hsome
  cases hsome

/-! ## Stopping and starting again -/

/-- A line is cut alike when it is cut in one go, and when the lexer is stopped in front of a token
and started again there in the mode that it had reached. -/
lemma classifyFrom_of_append {column : Nat} {mode : Mode} {line : Text} {before rest : List Token}
    (h : (classifyFrom column mode line).1 = before ++ rest) :
    line = textOf before ++ line.drop (textOf before).length ∧
      classifyFrom (column + (textOf before).length) (modeBehind mode before)
        (line.drop (textOf before).length) = (rest, (classifyFrom column mode line).2) := by
  induction before generalizing column mode line with
  | nil =>
    rw [List.nil_append] at h
    exact ⟨rfl, Prod.ext h rfl⟩
  | cons t before ih =>
    have hne : line ≠ [] := by
      rintro rfl
      rw [classifyFrom] at h
      cases h
    rw [classifyFrom_of_ne_nil column mode hne, List.cons_append, List.cons.injEq] at h
    obtain ⟨rfl, hrest⟩ := h
    -- the lexer itself goes on behind the first piece, in the mode that the piece leads to
    obtain ⟨hline, hagain⟩ := ih hrest
    have hpiece := List.prefix_iff_eq_append.1 (piece_isPrefix mode line)
    rw [classifyFrom_of_ne_nil column mode hne]
    rw [List.drop_drop] at hline hagain
    simp only [textOf_cons, modeBehind_cons, List.length_append, ← next_piece mode line column,
      ← Nat.add_assoc]
    refine ⟨?_, hagain⟩
    rw [List.append_assoc, ← hline]
    exact hpiece.symm

/-- A token starts behind the characters of those before it, and it is the first piece of what is
left there. -/
lemma eq_piece_of_append {mode : Mode} {line : Text} {before after : List Token} {t : Token}
    (h : (classify mode line).1 = before ++ t :: after) :
    ∃ u, line = textOf before ++ u ∧ u ≠ [] ∧
      t = ⟨(textOf before).length, (piece (modeBehind mode before) u).text,
        (piece (modeBehind mode before) u).kind⟩ := by
  obtain ⟨hline, hagain⟩ := classifyFrom_of_append h
  rw [Nat.zero_add] at hagain
  refine ⟨_, hline, ?_⟩
  generalize line.drop (textOf before).length = u at hagain
  have hne : u ≠ [] := by
    rintro rfl
    rw [classifyFrom] at hagain
    cases hagain
  rw [classifyFrom_of_ne_nil _ _ hne, Prod.mk.injEq, List.cons.injEq] at hagain
  exact ⟨hne, hagain.1.1.symm⟩

/-! ## Lines and texts -/

/-- The lexer cuts every line into tiles, whatever the mode that it starts in. -/
theorem classify_tiles (mode : Mode) (line : Text) :
    Tiles mode line (classify mode line).1 (classify mode line).2 := by
  -- stopped behind all its tokens, the lexer finds nothing more, so nothing is left of the line
  have hall : (classify mode line).1 = (classify mode line).1 ++ [] := (List.append_nil _).symm
  obtain ⟨hline, hend⟩ := classifyFrom_of_append hall
  have hdone : line.drop (textOf (classify mode line).1).length = [] := by
    by_contra hne
    rw [classifyFrom_of_ne_nil _ _ hne] at hend
    cases hend
  constructor
  · rw [hdone, List.append_nil] at hline
    exact hline.symm
  · intro t ht
    obtain ⟨before, after, heq⟩ := List.append_of_mem ht
    obtain ⟨u, -, hne, rfl⟩ := eq_piece_of_append heq
    exact piece_ne_nil _ hne
  · intro t ht
    obtain ⟨after, heq⟩ := List.head?_eq_some_iff.1 ht
    obtain ⟨u, -, -, rfl⟩ := @eq_piece_of_append mode line [] after t heq
    rfl
  · rw [List.isChain_iff_forall_rel_of_append_cons_cons]
    intro t u before after heq
    obtain ⟨_, -, -, ht⟩ := eq_piece_of_append heq
    rw [List.append_cons] at heq
    obtain ⟨_, -, -, hu⟩ := eq_piece_of_append heq
    rw [hu, Token.stop, ht]
    simp
  · rw [List.isChain_iff_forall_rel_of_append_cons_cons]
    rintro t u before after heq ⟨htext, hnext⟩
    obtain ⟨rest, hrest, -, ht⟩ := eq_piece_of_append heq
    rw [List.append_cons] at heq
    obtain ⟨rest', hrest', hne', hu⟩ := eq_piece_of_append heq
    -- the second token is the first piece of what is left behind the first one
    have hbehind : rest' = rest.drop t.text.length := by
      rw [hrest, textOf_append, List.append_assoc] at hrest'
      simp [List.append_cancel_left hrest']
    rw [modeBehind_concat, ht, ← next_piece, hbehind, ht] at hu
    rw [hu] at hnext
    rw [ht] at htext
    exact kind_piece_drop_ne_text _ htext (by rwa [hbehind, ht] at hne') hnext
  · intro before t after heq hmode
    obtain ⟨u, -, hne, rfl⟩ := eq_piece_of_append heq
    rw [hmode]
    exact kind_piece_string hne
  · rw [hdone, classifyFrom] at hend
    exact (Prod.mk.injEq _ _ _ _ ▸ hend).2

/-- Every line of a text is tiled by its tokens. -/
lemma forall₂_tokenizeLines (mode : Mode) (ls : List Text) :
    List.Forall₂ (fun line ts => ∃ start final, Tiles start line ts final) ls
      (tokenizeLines mode ls) := by
  induction ls generalizing mode with
  | nil => exact .nil
  | cons line ls ih => exact .cons ⟨mode, _, classify_tiles mode line⟩ (ih _)

/-- The characters of the tokens of a text are its lines. -/
lemma map_textOf_tokenize (t : Text) : (tokenize t).map textOf = Text.lines t := by
  have htiles := forall₂_tokenizeLines .root (Text.lines t)
  have hwhole : List.Forall₂ (· = ·) (Text.lines t) ((tokenize t).map textOf) := by
    rw [List.forall₂_map_right_iff]
    exact htiles.imp fun line ts ⟨_, _, h⟩ => h.whole.symm
  rw [List.forall₂_eq_eq_eq] at hwhole
  exact hwhole.symm

/-- **Nothing is lost.** The lexer cuts every line into tiles, whatever the mode that it starts in:
tokens that are not empty, lie side by side from the first column on, and have together the
characters of the line; no two neighbours are text, and nothing in a string is. The mode in front of
a token, as its quotes tell it, is the one that the lexer is in there. A text has one list of tokens
for each of its lines, and put together these are the text. -/
theorem tokens_tile :
    (∀ mode line, Tiles mode line (classify mode line).1 (classify mode line).2) ∧
      (∀ mode line before rest, (classify mode line).1 = before ++ rest →
        classifyFrom (textOf before).length (modeBehind mode before)
          (line.drop (textOf before).length) = (rest, (classify mode line).2)) ∧
      ∀ t, (tokenize t).length = t.count '\n' + 1 ∧ (tokenize t).map textOf = Text.lines t ∧
        Text.joinLines ((tokenize t).map textOf) = t := by
  refine ⟨classify_tiles, ?_, fun t => ⟨?_, map_textOf_tokenize t, ?_⟩⟩
  · intro mode line before rest h
    have hagain := (classifyFrom_of_append h).2
    rw [Nat.zero_add] at hagain
    exact hagain
  · rw [← List.length_map textOf, map_textOf_tokenize, Text.length_lines]
  · rw [map_textOf_tokenize, Text.joinLines_lines]

end Lexer

end Mermaid
