import Mermaid.Structure.Check
import Mathlib.Tactic.Common
import Mathlib.Data.List.Basic

/-!
# Statements as groups of lines

The statements of a diagram are groups of its lines, each of which ends at the first line after
which no string is open. A group without tokens makes no statement, and nothing is lost by that: no
check objects to it.
-/

namespace Mermaid.Structure

/-- The lines that make up statements: each group goes on while a string is open. -/
def groups : List ScannedLine → List (List ScannedLine)
  | [] => []
  | l :: ls =>
    if l.mode = .string then (groups ls).modifyHead (l :: ·) else [l] :: groups ls

/-- The tokens of a group of lines. -/
def statementOf (g : List ScannedLine) : Statement := g.flatMap ScannedLine.located

/-- The lines of a text after its declaration fall into groups, each of which ends at its only line
after which no string is open; a string is open after each line that is left over. -/
theorem groups_spec (ls : List ScannedLine) :
    (∃ rest, ls = (groups ls).flatten ++ rest ∧ ∀ l ∈ rest, l.mode = .string) ∧
      ∀ g ∈ groups ls, ∃ front last, g = front ++ [last] ∧ last.mode = .root ∧
        ∀ l ∈ front, l.mode = .string := by
  induction ls with
  | nil => exact ⟨⟨[], rfl, by simp⟩, by simp [groups]⟩
  | cons l ls ih =>
    obtain ⟨⟨rest, hls, hrest⟩, hgroups⟩ := ih
    rw [groups]
    split
    · next hmode =>
      -- the line goes in front of the first group below, or is left over with all lines below
      cases hg : groups ls with
      | nil =>
        rw [hg, List.flatten_nil, List.nil_append] at hls
        refine ⟨⟨l :: ls, rfl, ?_⟩, by simp⟩
        rw [hls]
        simpa [hmode] using hrest
      | cons g gs =>
        rw [hg] at hls hgroups
        refine ⟨⟨rest, ?_, hrest⟩, ?_⟩
        · conv_lhs => rw [hls]
          rfl
        · intro g' hg'
          rcases List.mem_cons.1 hg' with rfl | hmem
          · obtain ⟨front, last, rfl, hlast, hfront⟩ := hgroups g List.mem_cons_self
            exact ⟨l :: front, last, rfl, hlast, by simpa [hmode] using hfront⟩
          · exact hgroups g' (List.mem_cons_of_mem g hmem)
    · next hmode =>
      have hroot : l.mode = .root := by
        cases h : l.mode with
        | root => rfl
        | string => exact absurd h hmode
      refine ⟨⟨rest, ?_, hrest⟩, ?_⟩
      · conv_lhs => rw [hls]
        rfl
      · intro g hg
        rcases List.mem_cons.1 hg with rfl | hmem
        · exact ⟨[], l, rfl, hroot, by simp⟩
        · exact hgroups g hmem

/-! ## Lines in two parts -/

/-- No string is open behind some lines if none is open behind them and the line above. -/
lemma finalMode_tail {l : ScannedLine} {ls : List ScannedLine} (h : finalMode (l :: ls) = .root) :
    finalMode ls = .root := by
  cases ls with
  | nil => rfl
  | cons l' ls =>
    rw [finalMode, List.getLast?_cons_cons] at h
    exact h

lemma finalMode_append (us vs : List ScannedLine) :
    finalMode (us ++ vs) = (vs.getLast?.map ScannedLine.mode).getD (finalMode us) := by
  rw [finalMode, List.getLast?_append]
  cases vs.getLast? <;> rfl

/-- Lines that end outside strings leave nothing over, so they make up groups. -/
lemma groups_ne_nil {ls : List ScannedLine} (hne : ls ≠ []) (hmode : finalMode ls = .root) :
    groups ls ≠ [] := by
  intro hnil
  obtain ⟨⟨rest, hls, hrest⟩, -⟩ := groups_spec ls
  rw [hnil, List.flatten_nil, List.nil_append] at hls
  -- all lines would be left over, the last one among them
  rw [← hls] at hrest
  have hlast := hrest _ (List.getLast_mem hne)
  rw [finalMode, List.getLast?_eq_getLast_of_ne_nil hne] at hmode
  rw [Option.map_some, Option.getD_some, hlast] at hmode
  cases hmode

/-- No group goes on where no string is open. -/
lemma groups_append {us : List ScannedLine} (hmode : finalMode us = .root)
    (vs : List ScannedLine) : groups (us ++ vs) = groups us ++ groups vs := by
  induction us with
  | nil => rfl
  | cons u us ih =>
    rw [List.cons_append, groups, groups, ih (finalMode_tail hmode)]
    split
    · next hstring =>
      have hne : us ≠ [] := by
        intro hnil
        rw [hnil, show finalMode [u] = u.mode from rfl, hstring] at hmode
        cases hmode
      obtain ⟨g, gs, hgs⟩ :=
        List.exists_cons_of_ne_nil (groups_ne_nil hne (finalMode_tail hmode))
      rw [hgs]
      rfl
    · rfl

/-! ## Groups without tokens -/

lemma modifyHead_nil_append (ss : List Statement) : ss.modifyHead ([] ++ ·) = ss := by
  cases ss <;> rfl

/-- The statements are the groups that have tokens; the first group goes on with what is pending. -/
lemma statementsAfter_eq (pending : Statement) (ls : List ScannedLine) :
    statementsAfter pending ls =
      (((groups ls).map statementOf).modifyHead (pending ++ ·)).filter fun s => !s.isEmpty := by
  -- what is pending after a line with an open string is a part of the group of the next line
  induction ls generalizing pending with
  | nil => rfl
  | cons l ls ih =>
    rw [statementsAfter, groups]
    cases hmode : l.mode with
    | string =>
      simp only [decide_true, Bool.true_or, if_true]
      rw [ih]
      cases groups ls with
      | nil => rfl
      | cons g gs => simp [statementOf]
    | root =>
      simp only [reduceCtorEq, decide_false, Bool.false_or, if_false, List.map_cons,
        List.modifyHead_cons]
      have hone : statementOf [l] = l.located := List.append_nil _
      have hnone := ih []
      rw [modifyHead_nil_append] at hnone
      cases hempty : (pending ++ l.located).isEmpty with
      | true =>
        rw [if_pos rfl, List.filter_cons_of_neg (by simp [hone, hempty]), ← hnone,
          List.isEmpty_iff.1 hempty]
      | false =>
        rw [if_neg (by simp), hone, List.filter_cons_of_pos (by simp [hempty]), hnone]

/-- The statements are the groups that have tokens. -/
lemma statements_eq (ls : List ScannedLine) :
    statements ls = ((groups ls).map statementOf).filter fun s => !s.isEmpty := by
  rw [statements, statementsAfter_eq, modifyHead_nil_append]

/-- Nothing is objected to in a group without tokens. -/
lemma statementStep_nil (kind : Text) (blocks : List Head) :
    statementStep kind blocks [] = .ok blocks := by
  unfold statementStep
  split <;> rfl

/-- Checking the statements is checking all groups. -/
lemma foldlM_statements (kind : Text) (blocks : List Head) (ls : List ScannedLine) :
    (statements ls).foldlM (statementStep kind) blocks =
      ((groups ls).map statementOf).foldlM (statementStep kind) blocks := by
  rw [statements_eq]
  generalize (groups ls).map statementOf = ss
  induction ss generalizing blocks with
  | nil => rfl
  | cons s ss ih =>
    cases s with
    | nil =>
      rw [List.filter_cons_of_neg (by simp), List.foldlM_cons, statementStep_nil]
      exact ih blocks
    | cons t ts =>
      rw [List.filter_cons_of_pos (by simp), List.foldlM_cons, List.foldlM_cons]
      simp only [ih]

end Mermaid.Structure
