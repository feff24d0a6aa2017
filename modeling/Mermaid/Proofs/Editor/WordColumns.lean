import Mermaid.Proofs.Editor.TouchedWord
import Mermaid.Proofs.Text.CodeUnits

/-!
# The replaced word in the columns of an editor

An editor counts the columns of a line in UTF-16 code units. The completion takes the column of the
cursor for a number of characters, and gives the columns of the word as numbers of characters. So
its items replace the word that the cursor touches wherever the line, up to the end of that word,
lies in the basic plane; and they do so at every cursor of a line only if all of it does.

* `Completion.ReplacesWord` says that the items at a cursor replace the word it touches and nothing
  else;
* `Completion.replacement_columns` says where they do.
-/

namespace Mermaid

namespace Text

/-- As many units as stand in the first characters of a text belong to these characters. -/
lemma take_utf16 (t : Text) (k : Nat) : (utf16 t).take (units (t.take k)) = utf16 (t.take k) := by
  conv_lhs => rw [← List.take_append_drop k t, utf16_append, ← length_utf16]
  rw [List.take_append_drop]
  exact List.take_left

/-- Behind as many units as stand in the first characters of a text, the other characters stand. -/
lemma drop_utf16 (t : Text) (k : Nat) : (utf16 t).drop (units (t.take k)) = utf16 (t.drop k) := by
  conv_lhs => rw [← List.take_append_drop k t, utf16_append, ← length_utf16]
  rw [List.take_append_drop]
  exact List.drop_left

/-- Characters of the basic plane are counted by units. -/
lemma units_take_of_basic {t : Text} {n k : Nat} (ht : ∀ c ∈ t.take n, c.toNat < 0x10000)
    (hk : k ≤ n) (hlength : k ≤ t.length) : units (t.take k) = k := by
  have hbasic : ∀ c ∈ t.take k, c.toNat < 0x10000 := by
    intro c hc
    apply ht
    exact (List.take_prefix_take_left hk).subset hc
  have hle := (units_le_length_iff (t.take k)).2 hbasic
  have hge := length_le_units (t.take k)
  rw [List.length_take] at hle hge
  omega

end Text

/-- The code units of a line after an edit of that line. -/
def TextEdit.applyToLine (e : TextEdit) (us : List Nat) : List Nat :=
  us.take e.range.start.character ++ Text.utf16 e.newText ++ us.drop e.range.stop.character

namespace Completion

open Text (utf16 units)

/-- Whether the items at a cursor of a line replace the word that it touches, and nothing else. The
cursor stands behind the characters `before`, so their units are its column. -/
def ReplacesWord (t : Text) (n : Nat) (l before : Text) : Prop :=
  ∃ start stop, TouchedWord l before.length start stop ∧
    replacement t n (units before) = .onLine n (units (l.take start)) (units (l.take stop)) ∧
    ∀ new : Text, TextEdit.applyToLine ⟨replacement t n (units before), new⟩ (utf16 l) =
      utf16 (l.take start ++ new ++ l.drop stop)

variable {t l before after : Text} {n start stop : Nat}

/-- A range that is right in units replaces the word and nothing else. -/
lemma replacesWord_of_eq (htouched : TouchedWord l before.length start stop)
    (h : replacement t n (units before) = .onLine n (units (l.take start)) (units (l.take stop))) :
    ReplacesWord t n l before := by
  refine ⟨start, stop, htouched, h, fun new => ?_⟩
  rw [h]
  show (utf16 l).take (units (l.take start)) ++ utf16 new ++
    (utf16 l).drop (units (l.take stop)) = _
  rw [Text.take_utf16, Text.drop_utf16, Text.utf16_append, Text.utf16_append]

/-- A cursor touches some word, be it an empty one. -/
lemma exists_touchedWord (hl : l = before ++ after) :
    ∃ start stop, TouchedWord l before.length start stop := by
  have hle : before.length ≤ l.length := by
    rw [hl, List.length_append]
    omega
  have htouched := touchedWord_wordRange l before.length
  rw [clamp_natCast, Nat.min_eq_left hle] at htouched
  exact ⟨_, _, htouched⟩

/-- The units in front of the cursor are taken for a number of characters, and the word that this
column touches is given in characters. -/
lemma replacement_eq_iff_touchedWord (hl : (Text.lines t)[n]? = some l) (column a b : Nat) :
    replacement t n column = .onLine n a b ↔ TouchedWord l (min column l.length) a b := by
  have hlt := (List.getElem?_eq_some_iff.1 hl).1
  have hn : clamp ((Text.lines t).length - 1) n = n := by
    rw [clamp_natCast]
    omega
  have htouched := touchedWord_wordRange l column
  rw [clamp_natCast] at htouched
  have hnth : (Text.lines t)[clamp ((Text.lines t).length - 1) n]? = some l := by rwa [hn]
  rw [replacement_eq hnth, hn]
  constructor
  · intro h
    simp only [Range.onLine, Range.mk.injEq, Position.mk.injEq, true_and] at h
    rwa [h.1, h.2] at htouched
  · intro h
    obtain ⟨ha, hb⟩ := htouched.unique h
    rw [ha, hb]

/-- Up to the end of a word in the basic plane, characters and units are the same columns. -/
lemma replacesWord_of_basic (hl : (Text.lines t)[n]? = some l) (hcut : l = before ++ after)
    (htouched : TouchedWord l before.length start stop)
    (hbasic : ∀ c ∈ l.take stop, c.toNat < 0x10000) : ReplacesWord t n l before := by
  have hstop := htouched.stop_le
  have hle := htouched.le_stop
  have hstart := htouched.start_le
  have hunits : ∀ k ≤ stop, units (l.take k) = k := by
    intro k hk
    exact Text.units_take_of_basic hbasic hk (by omega)
  have hbefore : units before = before.length := by
    have htake : l.take before.length = before := by rw [hcut, List.take_left]
    rw [← hunits before.length hle, htake]
  apply replacesWord_of_eq htouched
  rw [hunits start (by omega), hunits stop (Nat.le_refl _), replacement_eq_iff_touchedWord hl,
    hbefore, Nat.min_eq_left (by omega)]
  exact htouched

/-- **The columns of the replaced word.** For a cursor of a line, the units in front of it are taken
for a number of characters: its items replace the word that the column of this number touches, and
the columns of that word are numbers of characters as well. So they replace the word that the cursor
touches, and nothing else, where the line lies in the basic plane up to the end of that word; and
they do so at all cursors of a line if and only if the whole line lies in the basic plane. -/
theorem replacement_columns (hl : (Text.lines t)[n]? = some l) :
    (∀ before after, l = before ++ after → ∀ a b,
        replacement t n (units before) = .onLine n a b ↔
          TouchedWord l (min (units before) l.length) a b) ∧
      (∀ before after, l = before ++ after → ∀ start stop,
        TouchedWord l before.length start stop → (∀ c ∈ l.take stop, c.toNat < 0x10000) →
          ReplacesWord t n l before) ∧
      ((∀ before after, l = before ++ after → ReplacesWord t n l before) ↔
        ∀ c ∈ l, c.toNat < 0x10000) := by
  refine ⟨fun before _ _ a b => replacement_eq_iff_touchedWord hl (units before) a b,
    fun before after hcut start stop htouched hbasic =>
      replacesWord_of_basic hl hcut htouched hbasic, ?_⟩
  constructor
  · -- at the end of the line the columns of the word end with the characters of the line
    intro h
    obtain ⟨start, stop, htouched, hrange, -⟩ := h l [] (List.append_nil l).symm
    obtain rfl : stop = l.length := Nat.le_antisymm htouched.stop_le htouched.le_stop
    rw [List.take_length, replacement_eq_iff_touchedWord hl] at hrange
    exact (Text.units_le_length_iff l).1 hrange.stop_le
  · intro hbasic before after hcut
    obtain ⟨start, stop, htouched⟩ := exists_touchedWord hcut
    apply replacesWord_of_basic hl hcut htouched
    intro c hc
    exact hbasic c (List.mem_of_mem_take hc)

/-- A word in front of a character outside the basic plane, below a line that has one too. -/
theorem replacement_columns_in_front :
    (Text.lines "%% 😀\ngra 😀".toList)[1]? = some "gra 😀".toList ∧
      ReplacesWord "%% 😀\ngra 😀".toList 1 "gra 😀".toList "gr".toList := by
  have hl : (Text.lines "%% 😀\ngra 😀".toList)[1]? = some "gra 😀".toList := by decide +kernel
  have hcolumn : clamp "gra 😀".toList.length 2 = 2 := by decide
  have hrange : wordRange "gra 😀".toList 2 = (0, 3) := by decide +kernel
  have htouched := touchedWord_wordRange "gra 😀".toList 2
  rw [hcolumn, hrange] at htouched
  have hbasic : ("gra 😀".toList.take 3).all (fun c => c.toNat < 0x10000) = true := by decide
  refine ⟨hl, (replacement_columns hl).2.1 "gr".toList "a 😀".toList (by decide) 0 3 htouched ?_⟩
  intro c hc
  exact of_decide_eq_true (List.all_eq_true.1 hbasic c hc)

/-- Behind a character outside the basic plane a word is replaced but for its last letter, together
with the blank in front of it. -/
theorem not_forall_replacesWord :
    ¬∀ (t : Text) (n : Nat) (l before after : Text), (Text.lines t)[n]? = some l →
      l = before ++ after → ReplacesWord t n l before := by
  intro h
  obtain ⟨start, stop, htouched, hrange, -⟩ := h "😀 gr".toList 0 "😀 gr".toList "😀 gr".toList []
    (by decide +kernel) (by decide)
  obtain rfl : stop = 4 := Nat.le_antisymm htouched.stop_le htouched.le_stop
  have hgiven : replacement "😀 gr".toList (0 : Nat) (units "😀 gr".toList) = .onLine 0 2 4 := by
    decide +kernel
  rw [hgiven] at hrange
  have hcolumn : 4 = units ("😀 gr".toList.take 4) := congrArg (fun r => r.stop.character) hrange
  exact absurd hcolumn (by decide)

end Completion

end Mermaid
