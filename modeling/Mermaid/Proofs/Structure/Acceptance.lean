import Mermaid.Proofs.Structure.Blocks
import Mermaid.Proofs.Structure.Brackets
import Mermaid.Proofs.Structure.Declaration

/-!
# What the structural check accepts

The check accepts a text exactly when it declares a known kind of diagram, its brackets are nested
and its blocks are balanced as far as its kind has any, and no string is open at its end. Which of
several problems is reported first plays no part in this.
-/

namespace Mermaid.Structure

/-- The kind of diagram that a declaration declares. -/
def Declaration.kind (d : Declaration) : Text :=
  declaredWord (Lexer.classify .root d.line).1 d.line

/-- The lines of a diagram from its declaration on. -/
def Declaration.scan (d : Declaration) : List ScannedLine :=
  scanLines .root d.number (d.line :: d.rest)

/-- The statements of a diagram, groups without tokens among them. -/
def Declaration.statements (d : Declaration) : List Statement :=
  (groups d.scan.tail).map statementOf

/-- Whether a declaration and the lines below it make up a diagram that is accepted. -/
structure Declaration.IsAccepted (d : Declaration) : Prop where
  kind : Keyword.isDiagramKind d.kind = true
  brackets : isFlowchart d.kind = true → ∀ s ∈ d.statements, Nested (bracketWord s)
  blocks : isFlowchart d.kind = true ∨ d.kind = "sequenceDiagram".toList →
    Balanced (blockWords d.kind).contains isEnd 0 (headWords d.statements)
  closed : finalMode d.scan = .root

/-! ## The parts of the check -/

/-- The kinds of diagram with blocks are the flowcharts and the sequence diagrams. -/
lemma blockWords_ne_nil_iff (kind : Text) :
    blockWords kind ≠ [] ↔ isFlowchart kind = true ∨ kind = "sequenceDiagram".toList := by
  unfold blockWords
  by_cases hflow : isFlowchart kind = true
  · rw [if_pos hflow]
    exact ⟨fun _ => .inl hflow, fun _ => List.cons_ne_nil _ _⟩
  rw [if_neg hflow]
  by_cases hsequence : kind = "sequenceDiagram".toList
  · rw [if_pos hsequence]
    exact ⟨fun _ => .inr hsequence, fun _ => List.cons_ne_nil _ _⟩
  · rw [if_neg hsequence]
    exact ⟨fun h => absurd rfl h, fun h => (h.elim hflow hsequence).elim⟩

/-- One step after another succeeds when both do. -/
lemma bind_eq_ok_iff {α β : Type} {x : Except Problem α} {f : α → Except Problem β} {b : β} :
    x >>= f = .ok b ↔ ∃ a, x = .ok a ∧ f a = .ok b := by
  cases x with
  | error p =>
    constructor
    · intro h
      cases h
    · intro h
      obtain ⟨a, ha, -⟩ := h
      cases ha
  | ok a =>
    constructor
    · intro h
      exact ⟨a, rfl, h⟩
    · intro h
      obtain ⟨a', ha, h'⟩ := h
      cases ha
      exact h'

/-- A statement is checked for its brackets and its block independently. -/
lemma statementStep_eq_ok_iff (kind : Text) (blocks after : List Head) (s : Statement) :
    statementStep kind blocks s = .ok after ↔
      (isFlowchart kind = true → checkBrackets s = .ok ()) ∧
        blockStep kind blocks s = .ok after := by
  unfold statementStep
  cases isFlowchart kind with
  | false =>
    constructor
    · intro h
      exact ⟨fun hflow => absurd hflow (by simp), h⟩
    · intro h
      exact h.2
  | true =>
    rw [if_pos rfl, bind_eq_ok_iff]
    constructor
    · intro h
      obtain ⟨u, hbrackets, hblock⟩ := h
      exact ⟨fun _ => hbrackets, hblock⟩
    · intro h
      obtain ⟨hbrackets, hblock⟩ := h
      exact ⟨(), hbrackets rfl, hblock⟩

/-- Statements are checked for their brackets and their blocks independently. -/
lemma foldlM_statementStep_eq_ok_iff (kind : Text) (blocks after : List Head)
    (ss : List Statement) :
    ss.foldlM (statementStep kind) blocks = .ok after ↔
      (isFlowchart kind = true → ∀ s ∈ ss, checkBrackets s = .ok ()) ∧
        ss.foldlM (blockStep kind) blocks = .ok after := by
  induction ss generalizing blocks with
  | nil => simp
  | cons s ss ih =>
    rw [List.foldlM_cons, List.foldlM_cons, bind_eq_ok_iff, bind_eq_ok_iff]
    constructor
    · intro h
      obtain ⟨between, hstep, hrest⟩ := h
      obtain ⟨hbrackets, hblock⟩ := (statementStep_eq_ok_iff kind blocks between s).1 hstep
      obtain ⟨hbrackets', hblocks⟩ := (ih between).1 hrest
      refine ⟨?_, between, hblock, hblocks⟩
      intro hflow
      rw [List.forall_mem_cons]
      exact ⟨hbrackets hflow, hbrackets' hflow⟩
    · intro h
      obtain ⟨hbrackets, between, hblock, hblocks⟩ := h
      refine ⟨between, (statementStep_eq_ok_iff kind blocks between s).2 ⟨?_, hblock⟩,
        (ih between).2 ⟨?_, hblocks⟩⟩
      · exact fun hflow => (List.forall_mem_cons.1 (hbrackets hflow)).1
      · exact fun hflow => (List.forall_mem_cons.1 (hbrackets hflow)).2

/-- Nothing is left open at the end of a text when no string and no block is. -/
lemma checkEnd_eq_ok_iff (ls : List ScannedLine) (blocks : List Head) :
    checkEnd ls blocks = .ok () ↔ finalMode ls = .root ∧ blocks = [] := by
  unfold checkEnd
  cases finalMode ls <;> cases blocks <;> simp

/-- A scanned diagram is accepted when its kind is known and nothing is wrong with its statements or
left open at its end. -/
lemma checkLines_eq_ok_iff (first : ScannedLine) (rest : List ScannedLine) :
    checkLines (first :: rest) = .ok () ↔
      Keyword.isDiagramKind (declaredWord first.tokens first.text) = true ∧
        ((groups rest).map statementOf).foldlM
          (statementStep (declaredWord first.tokens first.text)) [] = .ok [] ∧
        finalMode (first :: rest) = .root := by
  rw [checkLines]
  cases hkind : Keyword.isDiagramKind (declaredWord first.tokens first.text) with
  | false =>
    constructor
    · intro h
      cases h
    · intro h
      cases h.1
  | true =>
    simp only [Bool.not_true, Bool.false_eq_true, if_false]
    rw [foldlM_statements, bind_eq_ok_iff]
    simp only [checkEnd_eq_ok_iff]
    constructor
    · intro h
      obtain ⟨blocks, hfold, hmode, hblocks⟩ := h
      rw [hblocks] at hfold
      exact ⟨trivial, hfold, hmode⟩
    · intro h
      obtain ⟨-, hfold, hmode⟩ := h
      exact ⟨[], hfold, hmode, rfl⟩

/-- The lines from a declaration on are accepted when they make up a diagram of its kind. -/
lemma checkLines_scan_eq_ok_iff (d : Declaration) :
    checkLines d.scan = .ok () ↔ d.IsAccepted := by
  have hscan : d.scan = ⟨d.number, d.line, (Lexer.classify .root d.line).1,
      (Lexer.classify .root d.line).2⟩ :: d.scan.tail := rfl
  have hblocks : d.statements.foldlM (blockStep d.kind) [] = .ok [] ↔
      (isFlowchart d.kind = true ∨ d.kind = "sequenceDiagram".toList →
        Balanced (blockWords d.kind).contains isEnd 0 (headWords d.statements)) := by
    rw [← blockWords_ne_nil_iff]
    by_cases hkind : blockWords d.kind = []
    · rw [foldlM_blockStep_of_no_blocks hkind]
      exact ⟨fun _ h => absurd hkind h, fun _ => rfl⟩
    · rw [foldlM_blockStep_eq_ok_nil_iff hkind]
      exact ⟨fun h _ => h, fun h => h hkind⟩
  rw [hscan, checkLines_eq_ok_iff, ← hscan]
  -- the first line of the scan is the declaration, so the check runs on its kind and its statements
  show Keyword.isDiagramKind d.kind = true ∧
    d.statements.foldlM (statementStep d.kind) [] = .ok [] ∧ finalMode d.scan = .root ↔ _
  rw [foldlM_statementStep_eq_ok_iff, hblocks]
  simp only [checkBrackets_eq_ok_iff]
  constructor
  · intro h
    obtain ⟨hkind, ⟨hbrackets, hbalanced⟩, hclosed⟩ := h
    exact ⟨hkind, hbrackets, hbalanced, hclosed⟩
  · intro h
    exact ⟨h.kind, ⟨h.brackets, h.blocks⟩, h.closed⟩

/-- **Acceptance.** The check accepts a text if and only if the first line that may declare a
diagram does so, and what stands below it is nested, balanced and closed. -/
theorem check_eq_ok_iff (t : Text) :
    check t = .ok () ↔ ∃ d, Declares false 1 (Text.lines t) d ∧ d.IsAccepted := by
  rw [check]
  cases hd : declaration? t with
  | none =>
    constructor
    · intro h
      cases h
    · intro h
      obtain ⟨d, hd', -⟩ := h
      rw [← declarationFrom?_eq_some_iff, ← declaration?, hd] at hd'
      cases hd'
  | some d =>
    have hd' := (declarationFrom?_eq_some_iff false 1 (Text.lines t) d).1 hd
    constructor
    · intro h
      exact ⟨d, hd', (checkLines_scan_eq_ok_iff d).1 h⟩
    · intro h
      obtain ⟨d', hd'', haccepted⟩ := h
      rw [← declarationFrom?_eq_some_iff, ← declaration?, hd] at hd''
      cases hd''
      exact (checkLines_scan_eq_ok_iff d).2 haccepted

end Mermaid.Structure
