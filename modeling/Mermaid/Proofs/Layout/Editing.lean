import Mermaid.Editor.Formatting
import Mermaid.Proofs.Text.CodeUnits
import Mermaid.Proofs.Text.Lines

/-!
# What an editor makes of the formatting edit

An editor cuts a document into lines behind every line feed and every carriage return, where both
together are one end of a line, and counts the characters of a position in UTF-16 code units. The
formatting edit counts the characters of the last line instead. So it replaces the whole document
only if the last line lies in the basic plane, and leaves the end of that line behind otherwise.

* `Position.offset` is the place that an editor looks up for a position;
* `TextEdit.applyTo` is what it makes of a document;
* `Layout.edits_apply` says what becomes of the formatting edit.
-/

namespace Mermaid

namespace Text

/-- Whether a code unit ends a line. -/
def isReturn (u : Nat) : Bool := u = 10 || u = 13

/-- The code units of the first line. -/
def firstLine (us : List Nat) : List Nat := us.takeWhile fun u => !isReturn u

/-- The code units below the first line, if that line has an end. -/
def below? : List Nat → Option (List Nat)
  | [] => none
  | u :: us =>
    if u = 13 ∧ us.head? = some 10 then some us.tail
    else if isReturn u then some us
    else below? us

/-- The number of code units in front of a character of a line. A character behind the end of its
line stands at that end, and a line below the last one at the end of the document. -/
def offset (character : Nat) : Nat → List Nat → Nat
  | 0, us => min character (firstLine us).length
  | line + 1, us =>
    match below? us with
    | none => us.length
    | some rest => us.length - rest.length + offset character line rest

/-- Whether every carriage return of a text stands in front of a line feed. -/
def hasNoLoneReturn : Text → Bool
  | [] => true
  | c :: t => (c ≠ '\r' || t.head? = some '\n') && hasNoLoneReturn t

/-- The last line of a text. -/
def lastLine (t : Text) : Text := (lines t).getLastD []

end Text

/-- The number of code units in front of a position. -/
def Position.offset (p : Position) (us : List Nat) : Nat := Text.offset p.character p.line us

/-- The code units of a document after an edit. -/
def TextEdit.applyTo (e : TextEdit) (us : List Nat) : List Nat :=
  us.take (e.range.start.offset us) ++ Text.utf16 e.newText ++ us.drop (e.range.stop.offset us)

namespace Text

/-! ## Lines of an editor -/

/-- Only a line feed and a carriage return end a line. -/
lemma isReturn_of_mem_codeUnits {c : Char} (hfeed : c ≠ '\n') (hreturn : c ≠ '\r') :
    ∀ u ∈ codeUnits c, isReturn u = false := by
  have hten : c.toNat ≠ 10 := fun h => hfeed (Char.toNat_inj.1 h)
  have hthirteen : c.toNat ≠ 13 := fun h => hreturn (Char.toNat_inj.1 h)
  intro u hu
  rw [codeUnits] at hu
  rw [isReturn, Bool.or_eq_false_iff, decide_eq_false_iff_not, decide_eq_false_iff_not]
  split at hu
  · rw [List.mem_singleton] at hu
    omega
  · rw [List.mem_cons, List.mem_singleton] at hu
    omega

/-- Units that end no line belong to the first line. -/
lemma below?_append {us : List Nat} (hus : ∀ u ∈ us, isReturn u = false) (vs : List Nat) :
    below? (us ++ vs) = below? vs := by
  induction us with
  | nil => rfl
  | cons u us ih =>
    obtain ⟨hu, hrest⟩ := List.forall_mem_cons.1 hus
    have hne : ¬(u = 13 ∧ (us ++ vs).head? = some 10) := by
      rintro ⟨rfl, -⟩
      cases hu
    rw [List.cons_append, below?, if_neg hne, hu, if_neg (by simp), ih hrest]

/-- A line has no carriage return, if every carriage return stands in front of a line feed. -/
lemma return_not_mem {l : Text} (hfeed : '\n' ∉ l) (hl : hasNoLoneReturn l = true) : '\r' ∉ l := by
  induction l with
  | nil => simp
  | cons c l ih =>
    rw [List.mem_cons, not_or] at hfeed
    rw [hasNoLoneReturn, Bool.and_eq_true] at hl
    have hnext : l.head? ≠ some '\n' := fun h => hfeed.2 (List.mem_of_head? h)
    have hc : c ≠ '\r' := by simpa [hnext] using hl.1
    rw [List.mem_cons, not_or]
    exact ⟨Ne.symm hc, ih hfeed.2 hl.2⟩

/-- What stands below a line is as good. -/
lemma hasNoLoneReturn_of_append {l t : Text} (h : hasNoLoneReturn (l ++ t) = true) :
    hasNoLoneReturn t = true := by
  induction l with
  | nil => exact h
  | cons c l ih =>
    rw [List.cons_append, hasNoLoneReturn, Bool.and_eq_true] at h
    exact ih h.2

/-- A line feed ends the first line for an editor as well. -/
lemma below?_utf16 {l t : Text} (hfeed : '\n' ∉ l)
    (h : hasNoLoneReturn (l ++ '\n' :: t) = true) :
    below? (utf16 (l ++ '\n' :: t)) = some (utf16 t) := by
  induction l with
  | nil => rfl
  | cons c l ih =>
    rw [List.mem_cons, not_or] at hfeed
    rw [List.cons_append, hasNoLoneReturn, Bool.and_eq_true] at h
    by_cases hc : c = '\r'
    · -- the carriage return stands in front of the line feed, so it is the end of the line
      subst hc
      have hhead : (l ++ '\n' :: t).head? = some '\n' := by simpa using h.1
      cases l with
      | nil => rfl
      | cons d l =>
        obtain rfl : d = '\n' := Option.some.inj hhead
        exact absurd List.mem_cons_self hfeed.2
    · rw [List.cons_append, utf16_cons,
        below?_append (isReturn_of_mem_codeUnits (Ne.symm hfeed.1) hc), ih hfeed.2 h.2]

/-- A text without line feeds is one line for an editor as well. -/
lemma firstLine_utf16 {l : Text} (hfeed : '\n' ∉ l) (hl : hasNoLoneReturn l = true) :
    firstLine (utf16 l) = utf16 l := by
  have hreturn := return_not_mem hfeed hl
  rw [firstLine, List.takeWhile_eq_self_iff]
  intro u hu
  obtain ⟨c, hc, hu⟩ := List.mem_flatMap.1 hu
  have hplain := isReturn_of_mem_codeUnits (fun h => hfeed (h ▸ hc))
    (fun h => hreturn (h ▸ hc)) u hu
  simp [hplain]

/-- A character of a lower line stands behind the lines above it. -/
lemma offset_succ {us rest : List Nat} (h : below? us = some rest) (character line : Nat) :
    offset character (line + 1) us = us.length - rest.length + offset character line rest := by
  rw [offset, h]

/-- Behind a character of the last line stand the last units of that line. -/
lemma drop_offset {ls : List Text} (hne : ls ≠ []) (hls : ∀ l ∈ ls, '\n' ∉ l)
    (h : hasNoLoneReturn (joinLines ls) = true) (character : Nat) :
    (utf16 (joinLines ls)).drop (offset character (ls.length - 1) (utf16 (joinLines ls))) =
      (utf16 (ls.getLastD [])).drop character := by
  induction ls with
  | nil => exact absurd rfl hne
  | cons l ls ih =>
    obtain ⟨hl, hrest⟩ := List.forall_mem_cons.1 hls
    cases ls with
    | nil =>
      show (utf16 l).drop (min character (firstLine (utf16 l)).length) = (utf16 l).drop character
      rw [firstLine_utf16 hl h, List.drop_eq_drop_iff]
      omega
    | cons m ms =>
      have hlast := ih (List.cons_ne_nil m ms) hrest
        (hasNoLoneReturn_of_append (l := l ++ ['\n']) (by simpa [joinLines] using h))
      have hbelow := below?_utf16 hl h
      have hcut : utf16 (l ++ '\n' :: joinLines (m :: ms)) =
          utf16 (l ++ ['\n']) ++ utf16 (joinLines (m :: ms)) := by
        rw [← utf16_append, List.append_assoc, List.singleton_append]
      show (utf16 (l ++ '\n' :: joinLines (m :: ms))).drop
        (offset character (ms.length + 1) (utf16 (l ++ '\n' :: joinLines (m :: ms)))) = _
      rw [offset_succ hbelow, hcut, List.length_append, Nat.add_sub_cancel]
      exact (List.drop_length_add_append _).trans hlast

end Text

namespace Layout

open Text (utf16 units lastLine hasNoLoneReturn)

/-! ## The formatting edit -/

/-- The formatting edit puts the new text in the place of the document, but for the units of the
last line that its characters do not count. -/
lemma applyTo_fullRange {t : Text} (ht : hasNoLoneReturn t = true) (s : Text) :
    TextEdit.applyTo ⟨fullRange t, s⟩ (utf16 t) =
      utf16 s ++ (utf16 (lastLine t)).drop (lastLine t).length := by
  have hdrop := Text.drop_offset (Text.lines_ne_nil t) (fun _ hl => Text.not_mem_of_mem_lines hl)
    (by rwa [Text.joinLines_lines]) (lastLine t).length
  rw [Text.joinLines_lines] at hdrop
  have hstart : Position.offset ⟨0, 0⟩ (utf16 t) = 0 := Nat.zero_min _
  rw [TextEdit.applyTo, fullRange, hstart, List.take_zero, List.nil_append]
  exact congrArg (utf16 s ++ ·) hdrop

/-- **What becomes of the formatting edit.** A text in which no carriage return stands alone is laid
out by no edit if it is laid out already, and otherwise by one. That edit leaves the last units of
the last line behind the new text, as many as the line has more units than characters; so the editor
has the new text, and no other, if and only if the last line lies in the basic plane. Nothing comes
of a text that cannot be laid out. -/
theorem edits_apply [Platform] {t : Text} (ht : hasNoLoneReturn t = true) (width : Int) :
    (∀ f, edits t width = .error f ↔ format width t = .error f) ∧
      ∀ s, format width t = .ok s →
        (edits t width = .ok [] ↔ s = t) ∧
        (s ≠ t → ∃ e, edits t width = .ok [e] ∧
          e.applyTo (utf16 t) = utf16 s ++ (utf16 (lastLine t)).drop (lastLine t).length ∧
          ((∀ u, e.applyTo (utf16 t) = utf16 u ↔ u = s) ↔
            ∀ c ∈ lastLine t, c.toNat < 0x10000)) := by
  constructor
  · intro f
    rw [edits]
    cases format width t with
    | error g => simp only [Except.map, Except.error.injEq]
    | ok s => exact ⟨nofun, nofun⟩
  · intro s hs
    have hedits : edits t width = .ok (editsTo t s) := by rw [edits, hs]; rfl
    constructor
    · rw [hedits, editsTo]
      split
      · next heq => simp [heq]
      · next hne => simp [hne]
    · intro hne
      refine ⟨⟨fullRange t, s⟩, ?_, applyTo_fullRange ht s, ?_⟩
      · rw [hedits, editsTo, if_neg hne]
      · rw [applyTo_fullRange ht s, ← Text.units_le_length_iff, ← Text.length_utf16,
          ← List.drop_eq_nil_iff]
        constructor
        · -- nothing can be left behind, since the new text is all there is
          intro h
          exact List.append_right_eq_self.1 ((h s).2 rfl)
        · intro hnone u
          rw [hnone, List.append_nil, Text.utf16_injective.eq_iff]
          exact eq_comm

section Usual

open Platform.Usual

/-- A document whose first line has a character outside the basic plane and ends with a carriage
return is replaced by the text laid out. -/
theorem edits_apply_wide_comment :
    ∃ e, edits "graph TD %% 😀\r\nA".toList 4 = .ok [e] ∧
      ∀ u, e.applyTo (utf16 "graph TD %% 😀\r\nA".toList) = utf16 u ↔
        u = "graph TD %% 😀\n    A".toList := by
  have hformat : format 4 "graph TD %% 😀\r\nA".toList = .ok "graph TD %% 😀\n    A".toList := by
    decide +kernel
  obtain ⟨e, hedits, -, hreplaces⟩ :=
    ((edits_apply (t := "graph TD %% 😀\r\nA".toList) (by decide +kernel) 4).2 _ hformat).2
      (by decide +kernel)
  have hlast : lastLine "graph TD %% 😀\r\nA".toList = ['A'] := by decide +kernel
  refine ⟨e, hedits, hreplaces.2 ?_⟩
  rw [hlast]
  simp

/-- A character outside the basic plane in the last line leaves a bracket behind. -/
theorem not_forall_edits_apply :
    ¬∀ (t : Text) (width : Int) (s : Text), hasNoLoneReturn t = true → format width t = .ok s →
      s ≠ t → ∃ e, edits t width = .ok [e] ∧ e.applyTo (utf16 t) = utf16 s := by
  intro h
  have hformat : format 4 "graph TD\nA[\"😀\"]".toList = .ok "graph TD\n    A[\"😀\"]".toList := by
    decide +kernel
  obtain ⟨e, hedits, happly⟩ := h _ 4 _ (by decide +kernel) hformat (by decide +kernel)
  have hedit : edits "graph TD\nA[\"😀\"]".toList 4 =
      .ok [⟨⟨⟨0, 0⟩, ⟨1, 6⟩⟩, "graph TD\n    A[\"😀\"]".toList⟩] := by
    have hrange : fullRange "graph TD\nA[\"😀\"]".toList = ⟨⟨0, 0⟩, ⟨1, 6⟩⟩ := by decide +kernel
    rw [edits, hformat, Except.map, editsTo, if_neg (by decide +kernel), hrange]
  have hleft : TextEdit.applyTo ⟨⟨⟨0, 0⟩, ⟨1, 6⟩⟩, "graph TD\n    A[\"😀\"]".toList⟩
      (utf16 "graph TD\nA[\"😀\"]".toList) = utf16 "graph TD\n    A[\"😀\"]]".toList := by
    decide +kernel
  rw [hedit] at hedits
  obtain rfl := List.singleton_inj.1 (Except.ok.inj hedits)
  rw [hleft] at happly
  exact absurd (Text.utf16_injective happly) (by decide +kernel)

end Usual

end Layout

end Mermaid
