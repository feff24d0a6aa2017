import Mathlib.Data.List.DropRight
import Mermaid.Proofs.Editor.WordColumns
import Mermaid.Proofs.Lexer.Blanks

/-!
# Accepting a keyword behind its typed beginning

Behind a blank, or at the start of a line, somebody has typed the beginning of a keyword and accepts
the keyword. The item replaces the word in front of the cursor, and a word ends at a hyphen. So what
has been typed is completed when it has no hyphen; otherwise it stays up to its last hyphen, and the
whole keyword is put behind that.

* `Completion.touchedWord_typed` says which word the cursor touches;
* `Completion.accepted_keyword` says what the line is after the keyword has been accepted.
-/

namespace Mermaid

/-- A line after an edit of that line, with columns that count characters. -/
def TextEdit.replaceIn (e : TextEdit) (l : Text) : Text :=
  l.take e.range.start.character ++ e.newText ++ l.drop e.range.stop.character

namespace Completion

open Text (isWordAt isBlank isWord)

/-- The items at a position, each with the edit that accepts it. -/
def items (t : Text) (p : Position) : List (Candidate × TextEdit) :=
  candidates.map fun c => (c, ⟨replacement t p.line p.character, c.insertion.toList⟩)

/-- The part of a text up to its last hyphen, the hyphen included. -/
def upToHyphen (p : Text) : Text := p.rdropWhile (· ≠ '-')

variable {s p : Text} {name : String}

/-! ## The characters of keywords -/

/-- Keywords consist of word characters and hyphens. -/
lemma isWord_or_hyphen_of_keyword (hname : name ∈ Keyword.words) :
    ∀ c ∈ name.toList, isWord c = true ∨ c = '-' := by
  have hwords : (Keyword.words.all fun name =>
      name.toList.all fun c => isWord c || c == '-') = true := by
    decide +kernel
  intro c hc
  have hpart := List.all_eq_true.1 (List.all_eq_true.1 hwords name hname) c hc
  simpa using hpart

lemma isWord_of_isBlank {c : Char} (hc : isBlank c = true) : isWord c = false := by
  have hpart := Lexer.isWordPart_of_isBlank hc
  rw [Lexer.isWordPart, Bool.or_eq_false_iff] at hpart
  exact hpart.1

/-! ## The last hyphen -/

/-- Behind its last hyphen a text has none. -/
lemma exists_upToHyphen_append (p : Text) : ∃ run, upToHyphen p ++ run = p ∧ '-' ∉ run := by
  refine ⟨p.rtakeWhile (· ≠ '-'), List.rdropWhile_append_rtakeWhile, fun hmem => ?_⟩
  have hne := List.mem_rtakeWhile_imp hmem
  simp at hne

/-- What is in front of the last hyphen ends with it. -/
lemma getLast?_upToHyphen {c : Char} (hc : (upToHyphen p).getLast? = some c) : c = '-' := by
  have hne : upToHyphen p ≠ [] := by
    intro hnil
    rw [hnil] at hc
    cases hc
  have hlast : (upToHyphen p).getLast hne = c :=
    Option.some.inj ((List.getLast?_eq_some_getLast hne).symm.trans hc)
  have hnot := List.rdropWhile_last_not (fun c => decide (c ≠ '-')) p hne
  have hstop : ¬decide (c ≠ '-') = true := hlast ▸ hnot
  simpa using hstop

lemma upToHyphen_eq_nil_iff : upToHyphen p = [] ↔ '-' ∉ p := by
  rw [upToHyphen, List.rdropWhile_eq_nil_iff]
  simp only [decide_eq_true_eq]
  constructor
  · intro h hmem
    exact h '-' hmem rfl
  · intro h c hc heq
    exact h (heq ▸ hc)

/-! ## The word in front of the cursor -/

/-- The last character of the front part of a text. -/
lemma isWordAt_append_of_last {front back : Text} {i : Nat} (hi : i + 1 = front.length) :
    isWordAt (front ++ back) i = front.getLast?.any isWord := by
  have hlast : front.length - 1 = i := by omega
  rw [isWordAt, List.getElem?_append_left (by omega), List.getLast?_eq_getElem?, hlast]

/-- The character in front of what has been typed behind its last hyphen is a hyphen or a blank. -/
lemma not_isWord_before (hs : ∀ c ∈ s.getLast?, isBlank c = true) :
    (s ++ upToHyphen p).getLast?.any isWord = false := by
  rw [List.getLast?_append]
  cases hkept : (upToHyphen p).getLast? with
  | some c =>
    rw [getLast?_upToHyphen hkept]
    exact Text.isWord_hyphen
  | none =>
    rw [Option.none_or]
    cases hlast : s.getLast? with
    | none => rfl
    | some c => exact isWord_of_isBlank (hs c hlast)

/-- The cursor behind a typed beginning of a keyword touches the part behind its last hyphen. -/
lemma touchedWord_typed (hs : ∀ c ∈ s.getLast?, isBlank c = true) (hname : name ∈ Keyword.words)
    (hp : p <+: name.toList) :
    TouchedWord (s ++ p) (s ++ p).length (s ++ upToHyphen p).length (s ++ p).length := by
  obtain ⟨run, hsplit, hrun⟩ := exists_upToHyphen_append p
  have hline : s ++ p = (s ++ upToHyphen p) ++ run := by
    rw [List.append_assoc, hsplit]
  have hlength : (s ++ p).length = (s ++ upToHyphen p).length + run.length := by
    rw [hline, List.length_append]
  refine ⟨by omega, Nat.le_refl _, Nat.le_refl _, fun i hstart hstop => ?_, fun i hi => ?_, ?_⟩
  · -- all characters of keywords but hyphens belong to words
    have hlt : i - (s ++ upToHyphen p).length < run.length := by omega
    have hrunWord : ∀ c ∈ run, isWord c = true := by
      intro c hc
      have hmem : c ∈ p := by
        rw [← hsplit]
        exact List.mem_append_right _ hc
      apply (isWord_or_hyphen_of_keyword hname c (hp.subset hmem)).resolve_right
      rintro rfl
      exact hrun hc
    rw [isWordAt, hline, List.getElem?_append_right hstart, List.getElem?_eq_getElem hlt]
    exact hrunWord _ (List.getElem_mem hlt)
  · rw [hline, isWordAt_append_of_last hi]
    exact not_isWord_before hs
  · rw [isWordAt, List.getElem?_eq_none (Nat.le_refl _)]
    rfl

/-! ## Accepting the keyword -/

/-- The item of a keyword has one edit. -/
lemma mem_items_iff {t : Text} {q : Position} {e : TextEdit} (hname : name ∈ Keyword.words) :
    (.keyword name, e) ∈ items t q ↔ e = ⟨replacement t q.line q.character, name.toList⟩ := by
  rw [items, List.mem_map]
  constructor
  · rintro ⟨c, -, hc⟩
    obtain ⟨rfl, rfl⟩ := Prod.mk.inj hc
    rfl
  · rintro rfl
    have hmem : Candidate.keyword name ∈ candidates :=
      List.mem_append_left _ (List.mem_map_of_mem hname)
    exact ⟨_, hmem, rfl⟩

/-- What is replaced behind a typed beginning of a keyword. -/
lemma replacement_typed {t : Text} {n : Nat} (hl : (Text.lines t)[n]? = some (s ++ p))
    (hs : ∀ c ∈ s.getLast?, isBlank c = true) (hname : name ∈ Keyword.words)
    (hp : p <+: name.toList) :
    replacement t n (s ++ p).length = .onLine n (s ++ upToHyphen p).length (s ++ p).length := by
  rw [replacement_eq_iff_touchedWord hl, Nat.min_self]
  exact touchedWord_typed hs hname hp

/-- **Accepting a keyword.** On a line that has the beginning of a keyword behind a blank, or has
nothing else, with the cursor at its end: the item of the keyword has one edit, and this replaces a
part of that line up to its end. What has been typed up to its last hyphen stays, and the keyword
follows. So the line comes to end with the keyword in place of its beginning exactly when no hyphen
has been typed. -/
theorem accepted_keyword {t : Text} {n : Nat} (hl : (Text.lines t)[n]? = some (s ++ p))
    (hs : ∀ c ∈ s.getLast?, isBlank c = true) (hname : name ∈ Keyword.words)
    (hp : p <+: name.toList) :
    ∃ e, (∀ e', (.keyword name, e') ∈ items t ⟨n, (s ++ p).length⟩ ↔ e' = e) ∧
      e.range = .onLine n (s ++ upToHyphen p).length (s ++ p).length ∧
      e.replaceIn (s ++ p) = s ++ upToHyphen p ++ name.toList ∧
      (e.replaceIn (s ++ p) = s ++ name.toList ↔ '-' ∉ p) := by
  have hrange := replacement_typed hl hs hname hp
  have haccepted : TextEdit.replaceIn ⟨.onLine n (s ++ upToHyphen p).length (s ++ p).length,
      name.toList⟩ (s ++ p) = s ++ upToHyphen p ++ name.toList := by
    have hfront : s ++ upToHyphen p <+: s ++ p :=
      (List.prefix_append_right_inj s).2 (List.rdropWhile_prefix _ p)
    have htake : (s ++ p).take (s ++ upToHyphen p).length = s ++ upToHyphen p :=
      (List.prefix_iff_eq_take.1 hfront).symm
    show (s ++ p).take (s ++ upToHyphen p).length ++ name.toList ++
      (s ++ p).drop (s ++ p).length = _
    rw [htake, List.drop_length, List.append_nil]
  refine ⟨⟨replacement t n (s ++ p).length, name.toList⟩, fun e' => mem_items_iff hname, hrange, ?_,
    ?_⟩
  · rw [hrange, haccepted]
  · rw [hrange, haccepted, ← upToHyphen_eq_nil_iff, List.append_assoc, List.append_right_inj]
    exact List.append_left_eq_self

/-- On the second line a keyword is typed up to the letter behind its hyphen. -/
theorem accepted_keyword_hyphenated :
    (Text.lines "graph TD\n  stroke-w".toList)[1]? = some ("  ".toList ++ "stroke-w".toList) ∧
      ∃ e, (.keyword "stroke-width", e) ∈ items "graph TD\n  stroke-w".toList ⟨1, 10⟩ ∧
        e.replaceIn "  stroke-w".toList = "  stroke-stroke-width".toList := by
  have hl : (Text.lines "graph TD\n  stroke-w".toList)[1]? =
      some ("  ".toList ++ "stroke-w".toList) := by
    decide +kernel
  have hname : "stroke-width" ∈ Keyword.words := by decide +kernel
  have hblank : ∀ c ∈ "  ".toList.getLast?, isBlank c = true := by
    intro c hc
    obtain rfl : ' ' = c := Option.some.inj hc
    decide
  obtain ⟨e, hitem, -, haccepted, -⟩ := accepted_keyword hl hblank hname (by decide)
  exact ⟨hl, e, (hitem e).2 rfl, haccepted⟩

/-- A keyword whose hyphen has been typed is put behind what has been typed up to it. -/
theorem not_forall_accepted_keyword :
    ¬∀ (t : Text) (n : Nat) (s p : Text) (name : String) (e : TextEdit),
      (Text.lines t)[n]? = some (s ++ p) → (∀ c ∈ s.getLast?, isBlank c = true) →
        name ∈ Keyword.words → p <+: name.toList → p ≠ [] →
          (.keyword name, e) ∈ items t ⟨n, (s ++ p).length⟩ →
            e.replaceIn (s ++ p) = s ++ name.toList := by
  intro h
  have hname : "stateDiagram-v2" ∈ Keyword.words := by decide +kernel
  have hl : (Text.lines "stateDiagram-v".toList)[0]? = some ([] ++ "stateDiagram-v".toList) := by
    decide +kernel
  have hrange := replacement_typed hl nofun hname (by decide)
  have haccepted := h "stateDiagram-v".toList 0 [] "stateDiagram-v".toList "stateDiagram-v2" _ hl
    nofun hname (by decide) (by decide) ((mem_items_iff hname).2 rfl)
  rw [hrange] at haccepted
  exact absurd haccepted (by decide)

end Completion

end Mermaid
