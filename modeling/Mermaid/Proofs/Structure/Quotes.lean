import Mathlib.Data.List.Induction
import Mermaid.Proofs.Lexer.Comments
import Mermaid.Structure.Statement

/-!
# The quote that is left open

A string that is open at the end of a text was opened by the last of all quotes outside comments,
perhaps many lines above. The structural check keeps the last quote of each line behind which a
string is open, and so ends up with this one.
-/

namespace Mermaid

open Lexer (Scans)

/-- Tokens that are no quotes do not change the mode. -/
lemma modeBehind_of_no_quote {ts : List Token} (h : ∀ t ∈ ts, t.text ≠ ['"']) (mode : Mode) :
    modeBehind mode ts = mode := by
  induction ts with
  | nil => rfl
  | cons t ts ih =>
    obtain ⟨ht, hts⟩ := List.forall_mem_cons.1 h
    have hmode : t.modeAfter mode = mode := if_neg fun hquote => ht hquote.2
    rw [modeBehind_cons, hmode, ih hts]

/-- A quote outside comments belongs to a string. -/
lemma Lexer.Scans.kind_quote {column : Nat} {mode final : Mode} {line : Text} {ts : List Token}
    (h : Scans column mode line ts final) {t : Token} (ht : t ∈ ts) (htext : t.text = ['"']) :
    t.kind = .string := by
  rcases h.mem_cases ht with ⟨_, w, rest, kind, next, rfl, htakes⟩ | ⟨-, rest, hnone⟩ | hkind
  · subst (htext : w = ['"'])
    cases htakes with
    | comment h => cases h
    | delimiter h => exact absurd h (by decide)
    | quote => rfl
    | word hw _ =>
      have hnot : '"' ∉ ['"'] := hw.not_mem (by decide) (by decide +kernel) (by decide)
      exact absurd List.mem_cons_self hnot
  · rw [htext] at hnone
    exact absurd List.mem_cons_self (hnone.not_mem fun _ => ⟨_, _, .quote⟩)
  · exact hkind

lemma Lexer.text_mem_of_mem {ws : List Text} {w : Text} (h : w ∈ ws) (kind : TokenClass)
    (column : Nat) : ∃ t ∈ Lexer.sideBySide kind column ws, t.text = w := by
  induction ws generalizing column with
  | nil => cases h
  | cons v ws ih =>
    rcases List.mem_cons.1 h with rfl | hmem
    · exact ⟨_, List.mem_cons_self, rfl⟩
    · obtain ⟨t, ht, htext⟩ := ih hmem (column + v.length)
      exact ⟨t, List.mem_cons_of_mem _ ht, htext⟩

/-- A line that starts inside a string and has no quote as a token has none at all. -/
lemma Lexer.Scans.not_mem {column : Nat} {final : Mode} {line : Text} {ts : List Token}
    (h : Scans column .string line ts final) (hts : ∀ t ∈ ts, t.text ≠ ['"']) : '"' ∉ line := by
  cases h with
  | unclosed hs => exact hs
  | @closed _ s _ _ us _ _ =>
    have hmem : ['"'] ∈ Lexer.stringPieces s ++ [['"']] := by simp
    obtain ⟨t, ht, htext⟩ := Lexer.text_mem_of_mem hmem .string column
    exact absurd htext (hts t (List.mem_append_left us ht))

namespace Structure

/-- Whether a quote in one of some lines opens a string that no later quote closes: it stands
outside strings, and is the last quote of the lines outside comments. -/
structure LeavesStringOpen (ls : List ScannedLine) (l : ScannedLine) (quote : Token) : Prop where
  isQuote : quote.text = ['"']
  last : ∃ above below before after, ls = above ++ l :: below ∧
    l.tokens = before ++ quote :: after ∧ modeBehind (finalMode above) before = .root ∧
    '"' ∉ textOf after ∧ ∀ l' ∈ below, '"' ∉ l'.text

/-- Whether each of some lines is lexed in the mode that those above it lead to. -/
def IsScan (ls : List ScannedLine) : Prop :=
  ∀ above l below, ls = above ++ l :: below →
    Lexer.classify (finalMode above) l.text = (l.tokens, l.mode)

lemma isScan_scanLines (number : Nat) (lines : List Text) :
    IsScan (scanLines .root number lines) := by
  have hall : ∀ (lines : List Text) (mode : Mode) (number : Nat) (above : List ScannedLine)
      (l : ScannedLine) (below : List ScannedLine),
      scanLines mode number lines = above ++ l :: below →
        Lexer.classify ((above.getLast?.map ScannedLine.mode).getD mode) l.text =
          (l.tokens, l.mode) := by
    intro lines
    induction lines with
    | nil => simp [scanLines]
    | cons line lines ih =>
      intro mode number above l below h
      rw [scanLines] at h
      cases above with
      | nil =>
        obtain ⟨rfl, -⟩ := List.cons.inj h
        rfl
      | cons first above =>
        obtain ⟨rfl, hrest⟩ := List.cons.inj h
        -- the lines below start in the mode behind the first one
        have hmode := ih _ (number + 1) above l below hrest
        rw [List.getLast?_cons, Option.map_some, Option.getD_some]
        cases hlast : above.getLast? with
        | none =>
          rw [hlast] at hmode
          exact hmode
        | some m =>
          rw [hlast] at hmode
          exact hmode
  exact hall lines .root number

lemma IsScan.of_append {ls us : List ScannedLine} (h : IsScan (ls ++ us)) : IsScan ls := by
  intro above l below hsplit
  exact h above l (below ++ us) (by rw [hsplit, List.append_assoc, List.cons_append])

lemma finalMode_concat (ls : List ScannedLine) (l : ScannedLine) :
    finalMode (ls ++ [l]) = l.mode := by
  rw [finalMode, List.getLast?_concat]
  rfl

/-- The last quote of a line stands behind all others. -/
lemma exists_split_of_lastQuote? {l : ScannedLine} {quote : Token}
    (h : l.lastQuote? = some quote) : ∃ before after, l.tokens = before ++ quote :: after ∧
      quote.text = ['"'] ∧ ∀ t ∈ after, t.text ≠ ['"'] := by
  obtain ⟨front, hfront⟩ := List.getLast?_eq_some_iff.1 h
  obtain ⟨ts, us, htokens, -, hus⟩ := List.filter_eq_append_iff.1 hfront
  obtain ⟨vs, after, rfl, -, hquote, hafter⟩ := List.filter_eq_cons_iff.1 hus
  refine ⟨ts ++ vs, after, by rw [htokens, List.append_assoc], by simpa using hquote, ?_⟩
  simpa using List.filter_eq_nil_iff.1 hafter

/-- The last quote of a line behind which a string is open opens this string. -/
lemma leavesStringOpen_of_lastQuote? {ls : List ScannedLine} {l : ScannedLine} {quote : Token}
    (hline : Lexer.classify (finalMode ls) l.text = (l.tokens, .string))
    (hquote : l.lastQuote? = some quote) : LeavesStringOpen (ls ++ [l]) l quote := by
  obtain ⟨before, after, htokens, htext, hnone⟩ := exists_split_of_lastQuote? hquote
  -- behind the last quote nothing changes the mode, so it is the quote that leads into the string
  have htiles := Lexer.classify_tiles (finalMode ls) l.text
  have hscans := Lexer.scans_classifyFrom 0 (finalMode ls) l.text
  rw [← Lexer.classify] at hscans
  rw [hline] at htiles hscans
  have hkind := hscans.kind_quote (t := quote) (by simp [htokens]) htext
  have hbehind :
      modeBehind (quote.modeAfter (modeBehind (finalMode ls) before)) after = .string := by
    have hfinal := htiles.final
    rwa [htokens, modeBehind, List.foldl_append] at hfinal
  rw [modeBehind_of_no_quote hnone, Token.modeAfter, if_pos ⟨hkind, htext⟩] at hbehind
  have hroot : modeBehind (finalMode ls) before = .root := by
    cases h : modeBehind (finalMode ls) before with
    | root => rfl
    | string => rw [h] at hbehind; cases hbehind
  have hrest : '"' ∉ textOf after := by
    have hstop : (Lexer.classify (finalMode ls) l.text).1 = (before ++ [quote]) ++ after := by
      rw [hline, htokens, List.append_assoc]
      rfl
    obtain ⟨hsplit, hagain⟩ := Lexer.classifyFrom_of_append hstop
    have hmid : modeBehind (finalMode ls) (before ++ [quote]) = .string := by
      rw [modeBehind_concat, hroot, Token.modeAfter, if_pos ⟨hkind, htext⟩]
      rfl
    have hscans := Lexer.scans_classifyFrom (0 + (textOf (before ++ [quote])).length) .string
      (l.text.drop (textOf (before ++ [quote])).length)
    rw [← hmid, hagain, hmid] at hscans
    -- the tokens behind the quote have the characters that are left of the line
    have hwhole := htiles.whole.trans hsplit
    rw [htokens, List.append_cons, textOf_append] at hwhole
    rw [List.append_cancel_left hwhole]
    exact hscans.not_mem hnone
  exact ⟨htext, ls, [], before, after, rfl, htokens, hroot, hrest, by simp⟩

/-- A line without a quote behind which a string is open lies within this string. -/
lemma string_of_lastQuote? {mode : Mode} {l : ScannedLine}
    (hline : Lexer.classify mode l.text = (l.tokens, .string)) (hquote : l.lastQuote? = none) :
    mode = .string ∧ '"' ∉ l.text := by
  have hnone : ∀ t ∈ l.tokens, t.text ≠ ['"'] := by
    simpa using List.filter_eq_nil_iff.1 (List.getLast?_eq_none_iff.1 hquote)
  have htiles := Lexer.classify_tiles mode l.text
  have hscans := Lexer.scans_classifyFrom 0 mode l.text
  rw [← Lexer.classify] at hscans
  rw [hline] at htiles hscans
  have hmode : mode = .string := by rw [← modeBehind_of_no_quote hnone mode, htiles.final]
  rw [hmode] at hscans
  exact ⟨hmode, hscans.not_mem hnone⟩

/-- A string that is left open stays open behind a line without a quote. -/
lemma LeavesStringOpen.concat {ls : List ScannedLine} {l : ScannedLine} {quote : Token}
    (h : LeavesStringOpen ls l quote) {l' : ScannedLine} (hl' : '"' ∉ l'.text) :
    LeavesStringOpen (ls ++ [l']) l quote := by
  obtain ⟨hquote, above, below, before, after, rfl, htokens, hroot, hafter, hbelow⟩ := h
  refine ⟨hquote, above, below ++ [l'], before, after,
    by rw [List.append_assoc, List.cons_append], htokens, hroot, hafter, ?_⟩
  intro m hm
  rcases List.mem_append.1 hm with hmem | hmem
  · exact hbelow m hmem
  · rwa [List.mem_singleton.1 hmem]

/-- The quote that the check keeps is that of the last line which has one and leaves a string open.
-/
lemma openQuote?_concat (ls : List ScannedLine) {l : ScannedLine} (hmode : l.mode = .string) :
    openQuote? (ls ++ [l]) = (l.lastQuote?.map (l, ·)).or (openQuote? ls) := by
  rw [openQuote?, List.filterMap_append, List.getLast?_append, ← openQuote?]
  have hopening : l.openingQuote? = l.lastQuote?.map (l, ·) := if_pos hmode
  cases hquote : l.lastQuote?.map (l, ·) with
  | none =>
    rw [hquote] at hopening
    rw [openQuote?, List.filterMap_cons_none hopening]
    rfl
  | some q =>
    rw [hquote] at hopening
    rw [openQuote?, List.filterMap_cons_some hopening]
    rfl

/-- **Open strings.** When a string is open at the end of some lines, the quote that the check keeps
is the one that opens it. -/
theorem openQuote?_of_string {ls : List ScannedLine} (hls : IsScan ls)
    (hfinal : finalMode ls = .string) :
    ∃ l quote, openQuote? ls = some (l, quote) ∧ LeavesStringOpen ls l quote := by
  induction ls using List.reverseRecOn with
  | nil => cases hfinal
  | append_singleton ls l ih =>
    rw [finalMode_concat] at hfinal
    have hline := hls ls l [] rfl
    rw [hfinal] at hline
    rw [openQuote?_concat ls hfinal]
    cases hquote : l.lastQuote? with
    | some quote => exact ⟨l, quote, rfl, leavesStringOpen_of_lastQuote? hline hquote⟩
    | none =>
      obtain ⟨hstring, hno⟩ := string_of_lastQuote? hline hquote
      obtain ⟨l', quote, hopen, hleaves⟩ := ih hls.of_append hstring
      exact ⟨l', quote, hopen, hleaves.concat hno⟩

end Structure

end Mermaid
