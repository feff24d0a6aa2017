import Mermaid.Editor.SemanticToken
import Mermaid.Proofs.Lexer.Tiling
import Mermaid.Proofs.Text.CodeUnits
import Mermaid.Proofs.Text.Raw

/-!
# The relative encoding of tokens

Editors add up the differences that a text's tokens are sent as. What they arrive at are the tokens
that the lexer has found, other than text, at their places in UTF-16 code units.

Tokens tile their lines, so they come one after the other and do not overlap. Hence no difference is
negative, and none is lost by subtracting natural numbers (`SemanticToken.map_cast_encodeAfter`).

There are no differences for a text in which half a pair stands in a token or before one in its
line; a half behind the last token of a line does no harm.

* `SemanticToken.exists_encode_iff` says which texts have tokens that can be encoded;
* `SemanticToken.decode_encode` is the main statement.
-/

namespace Mermaid

/-! ## Places in a line -/

section Tiles

variable {mode final : Mode} {line : Text} {ts before after : List Token} {t : Token}

/-- A token starts behind the characters of the tokens before it. -/
lemma Tiles.start_eq (h : Tiles mode line ts final) (heq : ts = before ++ t :: after) :
    t.start = (textOf before).length := by
  induction before using List.reverseRecOn generalizing t after with
  | nil => exact h.first t (by rw [heq]; rfl)
  | append_singleton before u ih =>
    have hu : ts = before ++ u :: t :: after := by rw [heq, List.append_assoc]; rfl
    have hstop : u.stop = t.start :=
      List.isChain_iff_forall_rel_of_append_cons_cons.1 h.contiguous hu
    rw [← hstop, Token.stop, ih hu]
    simp

/-- What stands before the start of a token are the tokens before it. -/
lemma Tiles.take_start (h : Tiles mode line ts final) (heq : ts = before ++ t :: after) :
    line.take t.start = textOf before := by
  rw [h.start_eq heq, ← h.whole, heq, textOf_append, List.take_left]

/-- A token ends in its line. -/
lemma Tiles.units_le (h : Tiles mode line ts final) (ht : t ∈ ts) :
    Text.units (line.take t.start) + Text.units t.text ≤ Text.units line := by
  obtain ⟨before, after, heq⟩ := List.append_of_mem ht
  rw [h.take_start heq, ← h.whole, heq, textOf_append, textOf_cons, Text.units_append,
    Text.units_append]
  omega

/-- Each token ends before all later ones start. -/
lemma Tiles.pairwise (h : Tiles mode line ts final) :
    ts.Pairwise fun t u =>
      Text.units (line.take t.start) + Text.units t.text ≤ Text.units (line.take u.start) := by
  -- by induction on what is left of the tokens, as a place needs all of those before it
  have hrest : ∀ rest before, ts = before ++ rest → rest.Pairwise fun t u =>
      Text.units (line.take t.start) + Text.units t.text ≤ Text.units (line.take u.start) := by
    intro rest
    induction rest with
    | nil => exact fun _ _ => .nil
    | cons t rest ih =>
      intro before heq
      refine .cons ?_ (ih (before ++ [t]) (by rw [heq, List.append_cons]))
      intro u hu
      obtain ⟨between, after, rfl⟩ := List.append_of_mem hu
      have hu' : ts = (before ++ t :: between) ++ u :: after := by rw [heq]; simp
      rw [h.take_start heq, h.take_start hu', textOf_append, textOf_cons, Text.units_append,
        Text.units_append]
      omega
  exact hrest ts [] rfl

end Tiles

namespace SemanticToken

/-! ## Tokens with absolute coordinates -/

/-- The classes that have a type, in the order of their numbers. -/
def legend : List TokenClass := [.keyword, .string, .comment, .delimiter, .identifier]

/-- The place and the type of a token of a line. -/
def place (number : Nat) (line : Text) (t : Token) : Absolute :=
  ⟨number, Text.units (line.take t.start), Text.units t.text, legend.idxOf t.kind⟩

/-- The tokens of a line that are not text. -/
def colouredLine (number : Nat) (line : Text) (ts : List Token) : List Absolute :=
  (ts.filter fun t => t.kind ≠ .text).map (place number line)

/-- The tokens of a text that are not text, line by line. -/
def coloured (t : Text) : List Absolute :=
  (Lexer.tokenize t).zipIdx.flatMap fun (ts, number) =>
    colouredLine number ((Text.lines t).getD number []) ts

/-- Whether a token ends before another one starts. -/
def Absolute.Precedes (a b : Absolute) : Prop :=
  a.line < b.line ∨ a.line = b.line ∧ a.start + a.length ≤ b.start

/-- Exactly text has no type. -/
lemma filterMap_ofToken? (number : Nat) (line : Text) (ts : List Token) :
    ts.filterMap (ofToken? number line) = colouredLine number line ts := by
  induction ts with
  | nil => rfl
  | cons t ts ih =>
    rw [colouredLine] at ih ⊢
    rw [List.filterMap_cons, ih, List.filter_cons]
    obtain ⟨start, text, kind⟩ := t
    cases kind <;> rfl

/-- Lines and their tokens go together by their numbers. -/
lemma absoluteFrom_eq (earlier lines : List Text) (tokens : List (List Token))
    (hlength : tokens.length = lines.length) :
    absoluteFrom earlier.length lines tokens =
      (tokens.zipIdx earlier.length).flatMap fun (ts, number) =>
        colouredLine number ((earlier ++ lines).getD number []) ts := by
  induction lines generalizing earlier tokens with
  | nil =>
    rw [List.length_eq_zero_iff.1 hlength]
    rfl
  | cons line lines ih =>
    cases tokens with
    | nil => cases hlength
    | cons ts tokens =>
      have hrest := ih (earlier ++ [line]) tokens (Nat.succ.inj hlength)
      rw [List.length_append, List.length_singleton, ← List.append_cons] at hrest
      rw [absoluteFrom, filterMap_ofToken?, hrest, List.zipIdx_cons, List.flatMap_cons]
      simp

lemma absolute_eq_coloured (t : Text) : absolute t = coloured t := by
  have hlength : (Lexer.tokenize t).length = (Text.lines t).length := by
    rw [← List.length_map textOf, Lexer.map_textOf_tokenize]
  exact absoluteFrom_eq [] _ _ hlength

/-! ## Tokens in order -/

/-- The tokens of a line lie in it, one behind the other. -/
lemma colouredLine_ordered {mode final : Mode} {line : Text} {ts : List Token}
    (h : Tiles mode line ts final) (number : Nat) :
    (∀ a ∈ colouredLine number line ts,
      a.line = number ∧ 0 < a.length ∧ a.start + a.length ≤ Text.units line) ∧
      (colouredLine number line ts).Pairwise Absolute.Precedes := by
  constructor
  · intro a ha
    obtain ⟨t, ht, rfl⟩ := List.mem_map.1 ha
    have hmem := (List.mem_filter.1 ht).1
    have hne := List.length_pos_iff.2 (h.ne_nil t hmem)
    exact ⟨rfl, Nat.lt_of_lt_of_le hne (Text.length_le_units t.text), h.units_le hmem⟩
  · rw [colouredLine, List.pairwise_map]
    exact (h.pairwise.filter _).imp fun hle => .inr ⟨rfl, hle⟩

/-- The tokens of some lines lie in these, one behind the other. -/
lemma absoluteFrom_ordered {lines : List Text} {tokens : List (List Token)}
    (h : List.Forall₂ (fun line ts => ∃ start final, Tiles start line ts final) lines tokens)
    (number : Nat) :
    (∀ a ∈ absoluteFrom number lines tokens, number ≤ a.line ∧ 0 < a.length ∧
      ∃ line, lines[a.line - number]? = some line ∧ a.start + a.length ≤ Text.units line) ∧
      (absoluteFrom number lines tokens).Pairwise Absolute.Precedes := by
  induction h generalizing number with
  | nil => exact ⟨nofun, .nil⟩
  | @cons line ts lines tokens hline _ ih =>
    obtain ⟨_, _, htiles⟩ := hline
    obtain ⟨hin, hsorted⟩ := colouredLine_ordered htiles number
    obtain ⟨hin', hsorted'⟩ := ih (number + 1)
    rw [absoluteFrom, filterMap_ofToken?]
    refine ⟨fun a ha => ?_, ?_⟩
    · rcases List.mem_append.1 ha with hfirst | hlater
      · obtain ⟨hnumber, hpos, hle⟩ := hin a hfirst
        exact ⟨by omega, hpos, line, by simp [hnumber], hle⟩
      · obtain ⟨hnumber, hpos, line', hline', hle⟩ := hin' a hlater
        have hindex : a.line - number = a.line - (number + 1) + 1 := by omega
        exact ⟨by omega, hpos, line', by rw [hindex, List.getElem?_cons_succ, hline'], hle⟩
    · rw [List.pairwise_append]
      refine ⟨hsorted, hsorted', fun a ha b hb => .inl ?_⟩
      have ha' := (hin a ha).1
      have hb' := (hin' b hb).1
      omega

/-! ## Reading differences -/

/-- Reads tokens from numbers, five for each. The first one is relative to a token that starts at a
line and column; there are no modifiers to be set. -/
def decodeAfter (line start : Nat) : List Nat → Option (List Absolute)
  | [] => some []
  | lines :: columns :: length :: type :: 0 :: rest =>
    let number := line + lines
    let column := if lines = 0 then start + columns else columns
    (decodeAfter number column rest).map (⟨number, column, length, type⟩ :: ·)
  | _ => none

/-- The tokens that numbers stand for, if they stand for any. -/
def decode? (ns : List Nat) : Option (List Absolute) := decodeAfter 0 0 ns

/-- The differences between tokens, as integers. -/
def differencesAfter (line start : Int) : List Absolute → List Int
  | [] => []
  | a :: as =>
    (a.line - line) :: (if a.line - line = 0 then a.start - start else a.start) :: a.length ::
      a.type :: 0 :: differencesAfter a.line a.start as

/-- Whether tokens come one after the other, none of them before a place. -/
def OrderedAfter (line start : Nat) (as : List Absolute) : Prop :=
  (∀ a ∈ as, line < a.line ∨ line = a.line ∧ start ≤ a.start) ∧ as.Pairwise Absolute.Precedes

lemma OrderedAfter.cons {line start : Nat} {a : Absolute} {as : List Absolute}
    (h : OrderedAfter line start (a :: as)) :
    (line < a.line ∨ line = a.line ∧ start ≤ a.start) ∧ OrderedAfter a.line a.start as := by
  obtain ⟨hplace, hsorted⟩ := h
  rw [List.pairwise_cons] at hsorted
  refine ⟨hplace a List.mem_cons_self, fun b hb => ?_, hsorted.2⟩
  rcases hsorted.1 b hb with hline | ⟨hline, hstart⟩
  · exact .inl hline
  · exact .inr ⟨hline, by omega⟩

/-- Adding up the differences gives the tokens back. -/
lemma decodeAfter_encodeAfter {line start : Nat} {as : List Absolute}
    (h : OrderedAfter line start as) :
    decodeAfter line start (encodeAfter line start as) = some as := by
  induction as generalizing line start with
  | nil => rfl
  | cons a as ih =>
    obtain ⟨hplace, hrest⟩ := h.cons
    have hline : line + (a.line - line) = a.line := by omega
    -- the reader asks for a new line by the difference, the writer by the lines themselves
    have hstart : (if a.line - line = 0 then
        start + (if a.line = line then a.start - start else a.start)
        else if a.line = line then a.start - start else a.start) = a.start := by
      split <;> split <;> omega
    rw [encodeAfter, decodeAfter]
    simp only [hline, hstart, ih hrest, Option.map_some]

/-- No difference is negative. -/
lemma map_cast_encodeAfter {line start : Nat} {as : List Absolute}
    (h : OrderedAfter line start as) :
    (encodeAfter line start as).map (fun n : Nat => (n : Int)) =
      differencesAfter line start as := by
  induction as generalizing line start with
  | nil => rfl
  | cons a as ih =>
    obtain ⟨hplace, hrest⟩ := h.cons
    have hline : ((a.line - line : Nat) : Int) = a.line - line := by omega
    have hstart : ((if a.line = line then a.start - start else a.start : Nat) : Int) =
        if (a.line : Int) - line = 0 then (a.start : Int) - start else a.start := by
      split <;> split <;> omega
    rw [encodeAfter, differencesAfter]
    simp only [List.map_cons, hline, hstart, ih hrest, Int.natCast_zero]

/-- Each token takes five numbers. -/
lemma length_encodeAfter (line start : Nat) (as : List Absolute) :
    (encodeAfter line start as).length = 5 * as.length := by
  induction as generalizing line start with
  | nil => rfl
  | cons a as ih =>
    rw [encodeAfter]
    simp only [List.length_cons, ih]
    omega

/-! ## Texts whose tokens can be encoded -/

/-- Whether the tokens of a text can be encoded: those that are not text, and what stands before
them in their lines, are characters. -/
def IsEncodable (t : RawText) : Prop :=
  ∀ e ∈ t.lines.zip (Lexer.tokenize t.legible), ∀ u ∈ e.2, u.kind ≠ .text →
    ∀ p ∈ e.1.take u.stop, p.isChar = true

lemma tokenFault?_eq_none_iff {line : RawText} {u : Token} : tokenFault? line u = none ↔
    (u.kind ≠ .text → ∀ p ∈ line.take u.stop, p.isChar = true) := by
  have htype : (typeIndex? u.kind).isNone = true ↔ u.kind = .text := by
    cases u.kind <;> decide
  unfold tokenFault?
  split
  · next h => exact iff_of_true rfl fun hne => absurd (htype.1 h) hne
  · next h =>
    rw [Option.or_eq_none_iff, RawText.utf16Fault?_eq_none_iff, RawText.utf16Fault?_eq_none_iff,
      ← List.forall_mem_append, ← List.take_add, ← Token.stop]
    exact ⟨fun hchars _ => hchars, fun hchars => hchars (mt htype.2 h)⟩

lemma linesFault?_eq_none_iff {lines : List RawText} {tokens : List (List Token)} :
    linesFault? lines tokens = none ↔
      ∀ e ∈ lines.zip tokens, ∀ u ∈ e.2, tokenFault? e.1 u = none := by
  induction lines generalizing tokens with
  | nil => exact iff_of_true rfl nofun
  | cons line lines ih =>
    cases tokens with
    | nil => exact iff_of_true rfl nofun
    | cons ts tokens =>
      rw [linesFault?, Option.or_eq_none_iff, ih, List.findSome?_eq_none_iff, List.zip_cons_cons,
        List.forall_mem_cons]

/-- A text has an encoding exactly when its tokens can be encoded. -/
theorem exists_encode_iff {t : RawText} : (∃ ns, encode t = .ok ns) ↔ IsEncodable t := by
  have hfault : fault? t = none ↔ IsEncodable t := by
    simp only [fault?, linesFault?_eq_none_iff, tokenFault?_eq_none_iff, IsEncodable]
  rw [← hfault, encode]
  cases fault? t with
  | none => exact iff_of_true ⟨_, rfl⟩ rfl
  | some u => exact iff_of_false (fun ⟨_, h⟩ => nomatch h) nofun

/-- The tokens of a text of characters can be encoded. -/
theorem isEncodable_raw (t : Text) : IsEncodable t.raw := by
  intro e he u _ _ p hp
  have hline := (List.of_mem_zip he).1
  exact Text.isChar_of_mem_raw (RawText.subset_of_mem_lines hline (List.take_subset _ _ hp))

/-- **Editors see what the lexer has found.** A text has an encoding unless half a pair stands in
one of its tokens or before one in its line, so every text of characters has one. The encoding
consists of the differences between the tokens, five numbers for each and none negative, and adding
them up gives the tokens other than text: line, start, length and type. Each of them has a length
and lies in its line, and they come one behind the other without an overlap. -/
theorem decode_encode (t : RawText) :
    ((∃ ns, encode t = .ok ns) ↔ IsEncodable t) ∧
      ∀ ns, encode t = .ok ns →
        decode? ns = some (coloured t.legible) ∧
        ns.map (fun n : Nat => (n : Int)) = differencesAfter 0 0 (coloured t.legible) ∧
        5 ∣ ns.length ∧
        (∀ a ∈ coloured t.legible, 0 < a.length ∧
          ∃ line, (Text.lines t.legible)[a.line]? = some line ∧
            a.start + a.length ≤ Text.units line) ∧
        (coloured t.legible).Pairwise Absolute.Precedes := by
  refine ⟨exists_encode_iff, fun ns hns => ?_⟩
  have hordered := absoluteFrom_ordered (Lexer.forall₂_tokenizeLines .root (Text.lines t.legible)) 0
  rw [← Lexer.tokenize, ← absolute, absolute_eq_coloured] at hordered
  obtain ⟨hin, hsorted⟩ := hordered
  have hafter : OrderedAfter 0 0 (coloured t.legible) :=
    ⟨fun a _ => by omega, hsorted⟩
  have hencoded : encodeAfter 0 0 (coloured t.legible) = ns := by
    rw [encode] at hns
    split at hns
    · cases hns
    · rw [← absolute_eq_coloured]
      exact Except.ok.inj hns
  rw [← hencoded]
  refine ⟨decodeAfter_encodeAfter hafter, map_cast_encodeAfter hafter, ?_, fun a ha => ?_, hsorted⟩
  · rw [length_encodeAfter]
    exact Nat.dvd_mul_right 5 _
  · obtain ⟨-, hpos, hline⟩ := hin a ha
    exact ⟨hpos, hline⟩

/-- Half a pair behind all tokens does no harm. -/
theorem decode_encode_half_behind :
    ∃ ns, encode (Text.raw "graph A ".toList ++ [.half 0]) = .ok ns ∧
      decode? ns = some [⟨0, 0, 5, 0⟩, ⟨0, 6, 1, 4⟩] := by
  obtain ⟨-, hdecodes⟩ := decode_encode (Text.raw "graph A ".toList ++ [.half 0])
  obtain ⟨ns, hns⟩ : ∃ ns, encode (Text.raw "graph A ".toList ++ [.half 0]) = .ok ns :=
    ⟨[0, 0, 5, 0, 0, 0, 6, 1, 4, 0], by decide +kernel⟩
  refine ⟨ns, hns, ?_⟩
  rw [(hdecodes ns hns).1]
  decide +kernel

/-- Half a pair before a keyword leaves the text without an encoding. -/
theorem not_forall_exists_encode : ¬∀ t : RawText, ∃ ns, encode t = .ok ns := by
  intro h
  obtain ⟨ns, hns⟩ := h (.half 0 :: Text.raw " graph".toList)
  have hfault : encode (.half 0 :: Text.raw " graph".toList) =
      .error ⟨"utf-16-le", 0, [0]⟩ := by
    decide +kernel
  rw [hfault] at hns
  cases hns

end SemanticToken

end Mermaid
