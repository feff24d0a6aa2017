import Mermaid.Editor.Run
import Mathlib.Tactic.Common
import Mathlib.Data.List.Basic
import Mathlib.Data.List.Pairwise

/-!
# Searching a line for matches

The matches in a line stand one behind the other, and wherever there is something to be found, a
match covers it. So a search for the match that a column touches may end at the first match behind
that column: all later ones stand behind it as well. Where two matches meet, the column touches
both, and the search gives the one that ends there.

* `Run.all_covers` says that nothing is passed over;
* `Run.search_eq_find?` says that nothing is lost where the search ends;
* `Run.touching?_eq_some_iff` and `Run.touching?_eq_none_iff` say what the search finds.
-/

namespace Mermaid.Run

variable {find : Text → Text} {column : Nat} {line : Text} {r s : Run}

/-- A match is what is found at its column, and is not empty. -/
lemma exists_of_mem_allFrom (hr : r ∈ allFrom find column line) :
    ∃ i, r.start = column + i ∧ find (line.drop i) = r.text ∧ r.text ≠ [] := by
  induction column, line using allFrom.induct find with
  | case1 column => simp [allFrom] at hr
  | case2 column c cs hnone ih =>
    rw [allFrom, hnone] at hr
    obtain ⟨i, hstart, htext⟩ := ih hr
    exact ⟨i + 1, by omega, htext⟩
  | case3 column c cs w ws hfind ih =>
    rw [allFrom, hfind] at hr
    rcases List.mem_cons.1 hr with rfl | hmem
    · exact ⟨0, rfl, hfind, List.cons_ne_nil w ws⟩
    · obtain ⟨i, hstart, htext, hne⟩ := ih hmem
      refine ⟨(w :: ws).length + i, by omega, ?_, hne⟩
      rw [← htext, List.drop_drop, List.length_cons, Nat.add_right_comm, List.drop_succ_cons]

/-- A match is what is found at its start. -/
lemma find_of_mem (hr : r ∈ all find line) : find (line.drop r.start) = r.text := by
  obtain ⟨i, hstart, htext, -⟩ := exists_of_mem_allFrom hr
  obtain rfl : i = r.start := by omega
  exact htext

lemma start_lt_stop_of_mem (hr : r ∈ all find line) : r.start < r.stop := by
  obtain ⟨-, -, -, hne⟩ := exists_of_mem_allFrom hr
  have hpos := List.length_pos_iff.2 hne
  rw [stop]
  omega

lemma le_start_of_mem (hr : r ∈ allFrom find column line) : column ≤ r.start := by
  obtain ⟨i, hstart, -⟩ := exists_of_mem_allFrom hr
  omega

/-- Each match ends before all later ones start. -/
lemma pairwise_allFrom (find : Text → Text) (column : Nat) (line : Text) :
    (allFrom find column line).Pairwise fun r s => r.stop ≤ s.start := by
  induction column, line using allFrom.induct find with
  | case1 column => simp [allFrom]
  | case2 column c cs hnone ih =>
    rw [allFrom, hnone]
    exact ih
  | case3 column c cs w ws hfind ih =>
    rw [allFrom, hfind]
    exact List.pairwise_cons.2 ⟨fun s hs => le_start_of_mem hs, ih⟩

/-- Of two matches in a line that are not the same, one ends before the other starts. -/
lemma disjoint_of_mem_all (hr : r ∈ all find line) (hs : s ∈ all find line) :
    r = s ∨ r.stop ≤ s.start ∨ s.stop ≤ r.start := by
  have hpairwise := pairwise_allFrom find 0 line
  refine List.Pairwise.forall_of_forall_of_flip (R := fun r s => r = s ∨ r.stop ≤ s.start ∨
    s.stop ≤ r.start) (fun _ _ => .inl rfl) ?_ ?_ hr hs
  · exact hpairwise.imp fun h => .inr (.inl h)
  · exact hpairwise.imp fun h => .inr (.inr h)

/-- Where there is something to be found in what is left of a line, a match covers it. -/
lemma allFrom_covers {i : Nat} (hi : i < line.length) (hfind : find (line.drop i) ≠ []) :
    ∃ r ∈ allFrom find column line, r.start ≤ column + i ∧ column + i < r.stop := by
  induction column, line using allFrom.induct find generalizing i with
  | case1 column => simp at hi
  | case2 column c cs hnone ih =>
    rw [allFrom, hnone]
    cases i with
    | zero => exact absurd hnone hfind
    | succ i =>
      obtain ⟨r, hr, hstart, hstop⟩ := ih (by simpa using hi) hfind
      exact ⟨r, hr, by omega, by omega⟩
  | case3 column c cs w ws hfound ih =>
    rw [allFrom, hfound]
    by_cases hwithin : i < (w :: ws).length
    · refine ⟨_, List.mem_cons_self, Nat.le_add_right column i, ?_⟩
      show column + i < column + (w :: ws).length
      omega
    · -- the place lies behind the match, so that it is among what is left of the line
      obtain ⟨k, rfl⟩ := Nat.exists_eq_add_of_le (Nat.le_of_not_lt hwithin)
      have hdrop : (c :: cs).drop ((w :: ws).length + k) = (cs.drop ws.length).drop k := by
        rw [List.drop_drop, List.length_cons, Nat.add_right_comm, List.drop_succ_cons]
      rw [hdrop] at hfind
      have hlt : k < (cs.drop ws.length).length := by
        simp only [List.length_cons, List.length_drop] at hi ⊢
        omega
      obtain ⟨r, hr, hstart, hstop⟩ := ih hlt hfind
      exact ⟨r, List.mem_cons_of_mem _ hr, by omega, by omega⟩

/-- Where there is something to be found, a match covers it. -/
theorem all_covers {i : Nat} (hi : i < line.length) (hfind : find (line.drop i) ≠ []) :
    ∃ r ∈ all find line, r.start ≤ i ∧ i < r.stop := by
  obtain ⟨r, hr, hstart, hstop⟩ := allFrom_covers hi hfind
  exact ⟨r, hr, by omega, by omega⟩

/-- Among matches one behind the other, the search for one that a column touches may end at the
first that starts behind the column. -/
theorem search_eq_find? {rs : List Run} (h : rs.Pairwise fun r s => r.stop ≤ s.start)
    (column : Nat) : search column rs = rs.find? fun r => r.touches column := by
  induction rs with
  | nil => rfl
  | cons r rs ih =>
    obtain ⟨hlater, hrest⟩ := List.pairwise_cons.1 h
    rw [search, List.find?_cons]
    cases r.touches column with
    | true => rfl
    | false =>
      show (if column < r.start then none else search column rs) = _
      split
      · next hbehind =>
        -- all later matches start behind the column too, so none of them touches it
        rw [eq_comm, List.find?_eq_none]
        intro s hs
        have hstop : r.start ≤ r.stop := Nat.le_add_right r.start r.text.length
        have hle := hlater s hs
        simp only [touches, Bool.and_eq_true, decide_eq_true_eq, not_and]
        omega
      · exact ih hrest

/-- Where at most one match has a property, that one is the first that has it. -/
lemma find?_eq_some_iff {p : Run → Bool}
    (h : ∀ r ∈ all find line, ∀ s ∈ all find line, p r = true → p s = true → r = s) :
    (all find line).find? p = some r ↔ r ∈ all find line ∧ p r = true := by
  constructor
  · intro hfound
    have hp := List.find?_some hfound
    exact ⟨List.mem_of_find?_eq_some hfound, hp⟩
  · rintro ⟨hr, hp⟩
    cases hfound : (all find line).find? p with
    | none => exact absurd hp (List.find?_eq_none.1 hfound r hr)
    | some s => rw [h r hr s (List.mem_of_find?_eq_some hfound) hp (List.find?_some hfound)]

/-- At most one match covers a column. -/
lemma find?_covers_eq_some_iff :
    ((all find line).find? fun r => r.start ≤ column && column < r.stop) = some r ↔
      r ∈ all find line ∧ r.start ≤ column ∧ column < r.stop := by
  rw [find?_eq_some_iff, Bool.and_eq_true, decide_eq_true_eq, decide_eq_true_eq]
  intro r hr s hs hcovers hcovers'
  simp only [Bool.and_eq_true, decide_eq_true_eq] at hcovers hcovers'
  rcases disjoint_of_mem_all hr hs with heq | hbefore | hbehind
  · exact heq
  · omega
  · omega

/-- At most one match ends at a column. -/
lemma find?_stop_eq_some_iff :
    ((all find line).find? fun r => r.stop = column) = some r ↔
      r ∈ all find line ∧ r.stop = column := by
  rw [find?_eq_some_iff, decide_eq_true_eq]
  intro r hr s hs hstop hstop'
  rw [decide_eq_true_eq] at hstop hstop'
  have hnonempty := start_lt_stop_of_mem hr
  have hnonempty' := start_lt_stop_of_mem hs
  rcases disjoint_of_mem_all hr hs with heq | hbefore | hbehind
  · exact heq
  · omega
  · omega

lemma touching?_eq_find? (find : Text → Text) (line : Text) (column : Nat) :
    touching? find line column = (all find line).find? fun r => r.touches column :=
  search_eq_find? (pairwise_allFrom find 0 line) column

/-- What the search finds in a line is a match that the column touches. -/
lemma mem_of_touching? (h : touching? find line column = some r) :
    r ∈ all find line ∧ r.touches column = true := by
  rw [touching?_eq_find?] at h
  have htouches := List.find?_some h
  exact ⟨List.mem_of_find?_eq_some h, htouches⟩

/-- The search finds nothing in a line if and only if the column touches no match. -/
lemma touching?_eq_none_iff :
    touching? find line column = none ↔ ∀ r ∈ all find line, ¬r.touches column = true := by
  rw [touching?_eq_find?, List.find?_eq_none]

/-- If a match ends at the column, then the search finds that one. -/
lemma eq_of_touching? (h : touching? find line column = some r) (hs : s ∈ all find line)
    (hstop : s.stop = column) : s = r := by
  rw [touching?_eq_find?, List.find?_eq_some_iff_append] at h
  obtain ⟨htouches, earlier, later, hall, hearlier⟩ := h
  have hpairwise : (all find line).Pairwise fun r s => r.stop ≤ s.start :=
    pairwise_allFrom find 0 line
  have hnonempty := start_lt_stop_of_mem hs
  simp only [touches, Bool.and_eq_true, decide_eq_true_eq] at htouches
  rw [hall] at hs hpairwise
  rcases List.mem_append.1 hs with hmem | hmem
  · have hnot := hearlier s hmem
    simp only [touches, Bool.not_eq_true', Bool.and_eq_false_iff, decide_eq_false_iff_not] at hnot
    omega
  · rcases List.mem_cons.1 hmem with heq | hmem
    · exact heq
    · have hbehind := (List.pairwise_cons.1 (List.pairwise_append.1 hpairwise).2.1).1 s hmem
      omega

/-- The search finds the match that ends at the column, or else the one that covers it. -/
theorem touching?_eq_some_iff : touching? find line column = some r ↔ r ∈ all find line ∧
    (r.stop = column ∨
      r.start ≤ column ∧ column < r.stop ∧ ∀ s ∈ all find line, s.stop ≠ column) := by
  constructor
  · intro h
    obtain ⟨hr, htouches⟩ := mem_of_touching? h
    simp only [touches, Bool.and_eq_true, decide_eq_true_eq] at htouches
    refine ⟨hr, ?_⟩
    by_cases hends : r.stop = column
    · exact .inl hends
    · refine .inr ⟨htouches.1, by omega, fun s hs hstop => ?_⟩
      obtain rfl := eq_of_touching? h hs hstop
      exact hends hstop
  · rintro ⟨hr, hplace⟩
    cases hfound : touching? find line column with
    | none =>
      have hnot := touching?_eq_none_iff.1 hfound r hr
      have hnonempty := start_lt_stop_of_mem hr
      simp only [touches, Bool.and_eq_true, decide_eq_true_eq] at hnot
      omega
    | some s =>
      obtain ⟨hs, htouches⟩ := mem_of_touching? hfound
      simp only [touches, Bool.and_eq_true, decide_eq_true_eq] at htouches
      rcases hplace with hstop | ⟨hstart, hlt, hnone⟩
      · rw [eq_of_touching? hfound hr hstop]
      · -- both cover the column, since none ends there
        have hne := hnone s hs
        rcases disjoint_of_mem_all hr hs with rfl | hbefore | hbehind
        · rfl
        · omega
        · omega

end Mermaid.Run
