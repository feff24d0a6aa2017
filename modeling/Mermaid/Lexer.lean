import Mermaid.Token
import Mermaid.Keyword.Views

/-!
# The lexer

A line is cut into tokens from left to right, in one of two modes. Outside strings the rules are,
in order: a comment up to the end of the line, a delimiter, an opening quote, a word. Inside a
string they are: a run of plain characters, a backslash, the closing quote; a backslash never hides
a quote. Where no rule applies the characters up to the next place where one does are text.

* `Lexer.lexeme?` applies the rules at one place;
* `Lexer.classify` cuts one line, `Lexer.tokenize` all lines of a text, handing the mode on;
* `Lexer.piece_ne_nil` and `Lexer.piece_isPrefix` say that each step takes something from the head
  of what is left, so the cutting ends and loses nothing.
-/

namespace Mermaid.Lexer

/-- What a rule takes from the head of a line: a class, the characters, and the mode after them. -/
structure Lexeme where
  kind : TokenClass
  text : Text
  next : Mode
  deriving DecidableEq

/-- Whether a character may stand inside a word. -/
def isWordPart (c : Char) : Bool := Text.isWord c || c = '$'

/-- Whether a character may start a word: an ASCII letter. -/
def isWordStart (c : Char) : Bool := 'a' ≤ c && c ≤ 'z' || 'A' ≤ c && c ≤ 'Z'

/-- The word at the head of a line: a letter, then word characters and dollar signs with single
hyphens inside. Hyphens that belong to an edge glyph are left alone. -/
def word (cs : Text) : Text :=
  match cs with
  | [] => []
  | c :: rest => if isWordStart c then c :: Text.hyphenatedRun isWordPart rest else []

/-- The comment at the head of a line. It runs to the end of the line; a line feed may follow as
the very last character, and is not part of it. -/
def comment (cs : Text) : Text :=
  match cs with
  | '%' :: '%' :: rest =>
    let body := rest.takeWhile (· ≠ '\n')
    if (rest.drop body.length).length ≤ 1 then '%' :: '%' :: body else []
  | _ => []

/-- The delimiter at the head of a line. -/
def delimiter (cs : Text) : Text :=
  match cs with
  | '-' :: '-' :: _ => ['-', '-']
  | '=' :: '=' :: _ => ['=', '=']
  | c :: _ => if ['[', ']', '(', ')', '\x7b', '\x7d', '>', ':'].contains c then [c] else []
  | [] => []

/-- The class of a word. -/
def wordClass (w : Text) : TokenClass := if Keyword.isKeyword w then .keyword else .identifier

/-- Whether a character is neither a quote nor a backslash. -/
def isPlain (c : Char) : Bool := c ≠ '"' && c ≠ '\\'

/-- The lexeme at the head of a line outside strings. -/
def rootLexeme? (cs : Text) : Option Lexeme :=
  match comment cs with
  | c :: w => some ⟨.comment, c :: w, .root⟩
  | [] => match delimiter cs with
    | c :: w => some ⟨.delimiter, c :: w, .root⟩
    | [] => match cs with
      | '"' :: _ => some ⟨.string, ['"'], .string⟩
      | _ => match word cs with
        | c :: w => some ⟨wordClass (c :: w), c :: w, .root⟩
        | [] => none

/-- The lexeme at the head of a line inside a string. -/
def stringLexeme? (cs : Text) : Option Lexeme :=
  match cs with
  | [] => none
  | '"' :: _ => some ⟨.string, ['"'], .root⟩
  | '\\' :: _ => some ⟨.string, ['\\'], .string⟩
  | c :: rest => some ⟨.string, c :: rest.takeWhile isPlain, .string⟩

/-- The lexeme at the head of a line, when a rule of the mode applies there. -/
def lexeme? : Mode → Text → Option Lexeme
  | .root => rootLexeme?
  | .string => stringLexeme?

/-- The characters before the first place where a rule applies. -/
def unmatched (mode : Mode) : Text → Text
  | [] => []
  | c :: cs => if (lexeme? mode (c :: cs)).isSome then [] else c :: unmatched mode cs

/-- What is cut off next: a lexeme, or text where no rule applies. -/
def piece (mode : Mode) (cs : Text) : Lexeme :=
  match lexeme? mode cs with
  | some l => l
  | none => ⟨.text, unmatched mode cs, mode⟩

/-! ## Each step makes progress -/

theorem hyphenatedRun_isPrefix (p : Char → Bool) (cs : Text) :
    Text.hyphenatedRun p cs <+: cs := by
  induction cs with
  | nil => exact List.prefix_refl _
  | cons c cs ih =>
    rw [Text.hyphenatedRun]
    split
    · exact (List.prefix_cons_inj c).2 ih
    · split
      · exact (List.prefix_cons_inj c).2 ih
      · exact List.nil_prefix

theorem word_isPrefix (cs : Text) : word cs <+: cs := by
  cases cs with
  | nil => exact List.prefix_refl _
  | cons c cs =>
    rw [word]
    split
    · exact (List.prefix_cons_inj c).2 (hyphenatedRun_isPrefix _ cs)
    · exact List.nil_prefix

theorem comment_isPrefix (cs : Text) : comment cs <+: cs := by
  unfold comment
  split
  · next rest =>
    dsimp only
    split
    · exact (List.prefix_cons_inj _).2 ((List.prefix_cons_inj _).2 (List.takeWhile_prefix _))
    · exact List.nil_prefix
  · exact List.nil_prefix

theorem delimiter_isPrefix (cs : Text) : delimiter cs <+: cs := by
  unfold delimiter
  split
  · exact ⟨_, rfl⟩
  · exact ⟨_, rfl⟩
  · split
    · exact ⟨_, rfl⟩
    · exact List.nil_prefix
  · exact List.nil_prefix

theorem rootLexeme?_text {cs : Text} {l : Lexeme} (h : rootLexeme? cs = some l) :
    l.text ≠ [] ∧ l.text <+: cs := by
  unfold rootLexeme? at h
  split at h
  · next c w hw =>
    cases h
    exact ⟨by simp, hw ▸ comment_isPrefix cs⟩
  · split at h
    · next c w hw =>
      cases h
      exact ⟨by simp, hw ▸ delimiter_isPrefix cs⟩
    · split at h
      · cases h
        exact ⟨by simp, _, rfl⟩
      · split at h
        · next c w hw =>
          cases h
          exact ⟨by simp, hw ▸ word_isPrefix _⟩
        · cases h

theorem stringLexeme?_text {cs : Text} {l : Lexeme} (h : stringLexeme? cs = some l) :
    l.text ≠ [] ∧ l.text <+: cs := by
  unfold stringLexeme? at h
  split at h
  · cases h
  · cases h
    exact ⟨by simp, _, rfl⟩
  · cases h
    exact ⟨by simp, _, rfl⟩
  · cases h
    exact ⟨by simp, (List.prefix_cons_inj _).2 (List.takeWhile_prefix _)⟩

/-- A lexeme has characters, and they are the first ones of the line. -/
theorem lexeme?_text {mode : Mode} {cs : Text} {l : Lexeme} (h : lexeme? mode cs = some l) :
    l.text ≠ [] ∧ l.text <+: cs := by
  cases mode with
  | root => exact rootLexeme?_text h
  | string => exact stringLexeme?_text h

theorem unmatched_isPrefix (mode : Mode) (cs : Text) : unmatched mode cs <+: cs := by
  induction cs with
  | nil => exact List.prefix_refl _
  | cons c cs ih =>
    rw [unmatched]
    split
    · exact List.nil_prefix
    · exact (List.prefix_cons_inj c).2 ih

theorem piece_isPrefix (mode : Mode) (cs : Text) : (piece mode cs).text <+: cs := by
  unfold piece
  split
  · next l hl => exact (lexeme?_text hl).2
  · exact unmatched_isPrefix mode cs

theorem piece_ne_nil (mode : Mode) {cs : Text} (h : cs ≠ []) : (piece mode cs).text ≠ [] := by
  unfold piece
  split
  · next l hl => exact (lexeme?_text hl).1
  · next hn =>
    cases cs with
    | nil => exact absurd rfl h
    | cons c cs => simp [unmatched, hn]

theorem length_drop_piece_lt (mode : Mode) (c : Char) (cs : Text) :
    ((c :: cs).drop (piece mode (c :: cs)).text.length).length < (c :: cs).length := by
  have h := List.length_pos_iff.2 (piece_ne_nil mode (List.cons_ne_nil c cs))
  rw [List.length_drop]
  simp only [List.length_cons]
  omega

/-! ## Lines and texts -/

/-- The tokens of the rest of a line that starts at a column, and the mode after it. -/
def classifyFrom (column : Nat) (mode : Mode) (line : Text) : List Token × Mode :=
  match line with
  | [] => ([], mode)
  | c :: cs =>
    let p := piece mode (c :: cs)
    let (rest, final) :=
      classifyFrom (column + p.text.length) p.next ((c :: cs).drop p.text.length)
    (⟨column, p.text, p.kind⟩ :: rest, final)
termination_by line.length
decreasing_by exact length_drop_piece_lt mode c cs

/-- The tokens of a line that starts in a mode, and the mode after it. -/
def classify (mode : Mode) (line : Text) : List Token × Mode := classifyFrom 0 mode line

/-- The tokens of some lines, each line starting in the mode that the one before it ended in. -/
def tokenizeLines : Mode → List Text → List (List Token)
  | _, [] => []
  | mode, line :: lines =>
    let (tokens, next) := classify mode line
    tokens :: tokenizeLines next lines

/-- The tokens of every line of a text. -/
def tokenize (t : Text) : List (List Token) := tokenizeLines .root (Text.lines t)

end Mermaid.Lexer
