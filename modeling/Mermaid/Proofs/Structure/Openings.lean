import Mathlib.Data.List.Induction
import Mermaid.Proofs.Structure.Acceptance
import Mermaid.Proofs.Structure.Pairs

/-!
# What is left open

The bracket check and the block check keep what is open on a stack. What stands in front of the
items of the stack, between them and behind them is closed within itself. So the innermost item that
is left in the end is never closed, and what is objected to on the way closes nothing that is open.
-/

namespace Mermaid.Structure

/-- Whether some items leave a stack of them open, innermost first: all that stands around the items
of the stack is balanced. -/
inductive LeavesOpen {α : Type} (opens : α → Prop) (balanced : List α → Prop) :
    List α → List α → Prop
  | nothing {xs : List α} (h : balanced xs) : LeavesOpen opens balanced xs []
  | item {xs ys stack : List α} {x : α} (h : LeavesOpen opens balanced xs stack) (hx : opens x)
    (hys : balanced ys) : LeavesOpen opens balanced (xs ++ x :: ys) (x :: stack)

namespace LeavesOpen

variable {α : Type} {opens : α → Prop} {balanced : List α → Prop} {xs ys stack : List α} {x top : α}

/-- The items of the stack open something. -/
lemma opens_top (h : LeavesOpen opens balanced xs (top :: stack)) : opens top := by
  cases h with
  | item _ hx _ => exact hx

/-- The items of the stack are among those that leave it open. -/
lemma top_mem (h : LeavesOpen opens balanced xs (top :: stack)) : top ∈ xs := by
  cases h with
  | item _ _ _ => simp

/-- Balanced items leave the same stack open. -/
lemma append (h : LeavesOpen opens balanced xs stack)
    (happend : ∀ us vs, balanced us → balanced vs → balanced (us ++ vs)) (hys : balanced ys) :
    LeavesOpen opens balanced (xs ++ ys) stack := by
  cases h with
  | nothing h => exact .nothing (happend _ _ h hys)
  | item h hx hzs =>
    rw [List.append_assoc, List.cons_append]
    exact .item h hx (happend _ _ hzs hys)

/-- An item that closes the innermost one takes it off the stack. -/
lemma pop (h : LeavesOpen opens balanced xs (top :: stack))
    (happend : ∀ us vs, balanced us → balanced vs → balanced (us ++ vs))
    (hcloses : ∀ us, balanced us → balanced (top :: us ++ [x])) :
    LeavesOpen opens balanced (xs ++ [x]) stack := by
  cases h with
  | item h _ hys =>
    rw [List.append_assoc]
    exact h.append happend (hcloses _ hys)

end LeavesOpen

/-- A fold gets through, or it stops at the first item that it objects to. What it has reached up to
there is what its steps keep. -/
lemma foldlM_cases {σ α ε : Type} (f : σ → α → Except ε σ) (Reached : List α → σ → Prop) (init : σ)
    (hnil : Reached [] init)
    (hstep : ∀ xs s x s', Reached xs s → f s x = .ok s' → Reached (xs ++ [x]) s') (xs : List α) :
    (∃ s, xs.foldlM f init = .ok s ∧ Reached xs s) ∨
      ∃ front x back s e, xs = front ++ x :: back ∧ Reached front s ∧ f s x = .error e ∧
        xs.foldlM f init = .error e := by
  induction xs using List.reverseRecOn with
  | nil => exact .inl ⟨init, rfl, hnil⟩
  | append_singleton xs x ih =>
    rw [List.foldlM_append]
    rcases ih with ⟨s, hfold, hreached⟩ | ⟨front, y, back, s, e, rfl, hreached, herror, hfold⟩
    · rw [hfold]
      show (∃ s', (f s x >>= pure) = .ok s' ∧ _) ∨ ∃ front y back s' e, _ ∧ _ ∧ _ ∧
        (f s x >>= pure) = .error e
      cases hx : f s x with
      | ok s' => exact .inl ⟨s', rfl, hstep xs s x s' hreached hx⟩
      | error e => exact .inr ⟨xs, x, [], s, e, rfl, hreached, hx, rfl⟩
    · rw [hfold]
      exact .inr ⟨front, y, back ++ [x], s, e, by simp, hreached, herror, rfl⟩

/-! ## Brackets -/

/-- A bracket is a delimiter of one character. -/
lemma bracketOf?_eq_some_iff {t : Token} {c : Char} :
    bracketOf? t = some c ↔ t.kind = .delimiter ∧ t.text = [c] := by
  unfold bracketOf?
  split
  · next hkind htext => simp [hkind, htext]
  · next hnone =>
    constructor
    · intro h
      cases h
    · intro h
      exact absurd h.2 (hnone c h.1)

/-- Whether some brackets leave a stack of them open. -/
def OpenBrackets : List OpenBracket → List OpenBracket → Prop :=
  LeavesOpen (fun b => partner? b.bracket = none) fun bs => Nested (bs.map OpenBracket.bracket)

/-- Whether a bracket closes none of some brackets that are open. -/
structure FitsNone (stack : List OpenBracket) (b : OpenBracket) : Prop where
  isClosing : (partner? b.bracket).isSome = true
  innermost : ∀ top ∈ stack.head?, closes b.bracket top.bracket = false

/-- A bracket opens something, closes the innermost open bracket, or is objected to. -/
lemma nestStep_cases (stack : List OpenBracket) (b : OpenBracket) :
    (partner? b.bracket = none ∧ nestStep stack b = .ok (b :: stack)) ∨
      (∃ top rest, stack = top :: rest ∧ closes b.bracket top.bracket = true ∧
        nestStep stack b = .ok rest) ∨
      FitsNone stack b ∧
        nestStep stack b = .error (.at (.unmatched b.bracket) b.line b.column 1) := by
  cases hpartner : partner? b.bracket with
  | none => exact .inl ⟨rfl, nestStep_of_opening hpartner stack⟩
  | some opened =>
    cases stack with
    | nil =>
      refine .inr (.inr ⟨⟨by rw [hpartner]; rfl, by simp⟩, ?_⟩)
      simp only [nestStep, hpartner, Option.isNone_some, Bool.false_eq_true, if_false]
    | cons top rest =>
      cases hcloses : closes b.bracket top.bracket with
      | true => exact .inr (.inl ⟨top, rest, rfl, hcloses, nestStep_of_closes hcloses rest⟩)
      | false =>
        refine .inr (.inr ⟨⟨by rw [hpartner]; rfl, by simpa using hcloses⟩, ?_⟩)
        simp only [nestStep, hpartner, hcloses, Option.isNone_some, Bool.false_eq_true, if_false]

/-- The stack of the bracket check holds the brackets that are open. -/
lemma OpenBrackets.concat {bs stack stack' : List OpenBracket} {b : OpenBracket}
    (h : OpenBrackets bs stack) (hstep : nestStep stack b = .ok stack') :
    OpenBrackets (bs ++ [b]) stack' := by
  rcases nestStep_cases stack b with ⟨hopens, hb⟩ | ⟨top, rest, rfl, hcloses, hb⟩ | ⟨-, hb⟩
  · cases hb.symm.trans hstep
    exact .item h hopens .empty
  · cases hb.symm.trans hstep
    refine h.pop ?_ ?_
    · intro us vs hus hvs
      rw [List.map_append]
      exact .append hus hvs
    · intro us hus
      rw [List.map_append, List.map_cons]
      exact hus.enclosed hcloses
  · cases hb.symm.trans hstep

/-- The bracket check accepts a statement, objects to a bracket that closes none of those in front
of it, or objects to the innermost one that is left open. -/
lemma checkBrackets_cases (s : Statement) :
    checkBrackets s = .ok () ∨
      (∃ front b back stack, bracketsAfter none s = front ++ b :: back ∧ OpenBrackets front stack ∧
        FitsNone stack b ∧
        checkBrackets s = .error (.at (.unmatched b.bracket) b.line b.column 1)) ∨
      ∃ b stack, OpenBrackets (bracketsAfter none s) (b :: stack) ∧
        checkBrackets s = .error (.at (.unclosed b.bracket) b.line b.column 1) := by
  rw [checkBrackets, checkBracketsFrom_eq]
  have hfold := foldlM_cases nestStep OpenBrackets []
    (.nothing .empty) (fun _ _ _ _ h hstep => h.concat hstep) (bracketsAfter none s)
  rcases hfold with ⟨stack, hfold, hopen⟩ | ⟨front, b, back, stack, p, hsplit, hopen, hb, hfold⟩
  · rw [hfold]
    cases stack with
    | nil => exact .inl rfl
    | cons b stack => exact .inr (.inr ⟨b, stack, hopen, rfl⟩)
  · rw [hfold]
    rcases nestStep_cases stack b with ⟨-, hb'⟩ | ⟨_, _, _, _, hb'⟩ | ⟨hfits, hb'⟩
    · cases hb'.symm.trans hb
    · cases hb'.symm.trans hb
    · cases hb'.symm.trans hb
      exact .inr (.inl ⟨front, b, back, stack, hsplit, hopen, hfits, rfl⟩)

/-! ## Blocks -/

/-- Balanced words may stand in front of others. -/
lemma Balanced.append {opens closes : Text → Bool} {depth : Nat} {us vs : List Text}
    (hus : Balanced opens closes 0 us) (hvs : Balanced opens closes depth vs) :
    Balanced opens closes depth (us ++ vs) := by
  constructor
  · intro ws hws
    rcases List.prefix_or_prefix_of_prefix hws (List.prefix_append us vs) with hle | ⟨ws, rfl⟩
    · have := hus.prefix_le ws hle
      omega
    · have hrest := hvs.prefix_le ws ((List.prefix_append_right_inj us).1 hws)
      have htotal := hus.total
      rw [List.countP_append, List.countP_append]
      omega
  · have hrest := hvs.total
    have htotal := hus.total
    rw [List.countP_append, List.countP_append]
    omega

/-- Whether some heads are balanced, as far as a kind of diagram has blocks. -/
def BalancedHeads (kind : Text) (hs : List Head) : Prop :=
  blockWords kind ≠ [] → Balanced (blockWords kind).contains isEnd 0 (wordsOf hs)

/-- Whether some heads leave a stack of blocks open, in a kind of diagram. -/
def OpenBlocks (kind : Text) : List Head → List Head → Prop :=
  LeavesOpen (fun h => (blockWords kind).contains h.word = true) (BalancedHeads kind)

variable {kind : Text} {us vs : List Head} {head block : Head}

lemma BalancedHeads.nil : BalancedHeads kind [] := fun _ => Balanced.nil_iff.2 rfl

lemma BalancedHeads.append (hus : BalancedHeads kind us) (hvs : BalancedHeads kind vs) :
    BalancedHeads kind (us ++ vs) := by
  intro hkind
  rw [wordsOf, List.map_append]
  exact (hus hkind).append (hvs hkind)

/-- A head that neither opens nor closes a block is balanced by itself. -/
lemma BalancedHeads.single (hopens : (blockWords kind).contains head.word = false)
    (hend : blockWords kind ≠ [] → isEnd head.word = false) : BalancedHeads kind [head] := by
  intro hkind
  rw [wordsOf, List.map_singleton, Balanced.cons_iff 0 (by rw [hopens, hend hkind])]
  exact Balanced.nil_iff.2 rfl

/-- Balanced heads may stand between one that opens a block and one that closes it. -/
lemma BalancedHeads.enclosed (hus : BalancedHeads kind us)
    (hopens : (blockWords kind).contains block.word = true) (hend : isEnd head.word = true) :
    BalancedHeads kind (block :: us ++ [head]) := by
  intro hkind
  have hhead : (blockWords kind).contains head.word = false := by
    rw [← Bool.not_eq_true]
    intro h
    rw [isEnd_of_opens h] at hend
    cases hend
  have hlast : Balanced (blockWords kind).contains isEnd 1 [head.word] := by
    rw [Balanced.cons_iff 0 (by rw [hhead, hend]; rfl)]
    exact Balanced.nil_iff.2 rfl
  rw [wordsOf, List.cons_append, List.map_cons, List.map_append,
    Balanced.cons_iff 1 (by rw [hopens, isEnd_of_opens hopens]; rfl)]
  exact (hus hkind).append hlast

/-- What the block check makes of a statement: it has no head, or a head that opens a block, closes
the innermost one, does neither, or is objected to. -/
lemma blockStep_cases (kind : Text) (blocks : List Head) (s : Statement) :
    (head? s = none ∧ blockStep kind blocks s = .ok blocks) ∨
      ∃ head, head? s = some head ∧
        ((blockWords kind).contains head.word = true ∧
            blockStep kind blocks s = .ok (head :: blocks) ∨
          BalancedHeads kind [head] ∧ blockStep kind blocks s = .ok blocks ∨
          (∃ block rest, blocks = block :: rest ∧ isEnd head.word = true ∧
            blockStep kind blocks s = .ok rest) ∨
          blockWords kind ≠ [] ∧ blocks = [] ∧ isEnd head.word = true ∧
            blockStep kind blocks s = .error (.at .unexpectedEnd head.line head.column 3)) := by
  cases hhead : head? s with
  | none => exact .inl ⟨rfl, blockStep_of_no_head hhead blocks⟩
  | some head =>
    refine .inr ⟨head, rfl, ?_⟩
    cases hopens : (blockWords kind).contains head.word with
    | true => exact .inl ⟨rfl, blockStep_of_opens hhead hopens blocks⟩
    | false =>
      cases hend : isEnd head.word with
      | false =>
        exact .inr (.inl ⟨.single hopens fun _ => hend,
          blockStep_of_neither hhead hopens hend blocks⟩)
      | true =>
        by_cases hkind : blockWords kind = []
        · have hstep : blockStep kind blocks s = .ok blocks := by
            simp [blockStep, hhead, hkind]
          exact .inr (.inl ⟨.single hopens fun h => absurd hkind h, hstep⟩)
        cases blocks with
        | cons block rest =>
          exact .inr (.inr (.inl ⟨block, rest, rfl, rfl,
            (blockStep_of_end hkind hhead hopens hend).1 block rest⟩))
        | nil =>
          have hword : (head.word = endWord && !(blockWords kind).isEmpty) = true := by
            rw [isEnd] at hend
            simpa [hkind] using hend
          refine .inr (.inr (.inr ⟨hkind, rfl, rfl, ?_⟩))
          rw [blockStep, hhead]
          simp only [hopens, hword, Bool.false_eq_true, if_false, if_true]

/-- The stack of the block check holds the blocks that are open. -/
lemma OpenBlocks.concat {ss : List Statement} {s : Statement} {blocks after : List Head}
    (h : OpenBlocks kind (ss.filterMap head?) blocks)
    (hstep : blockStep kind blocks s = .ok after) :
    OpenBlocks kind ((ss ++ [s]).filterMap head?) after := by
  rw [List.filterMap_append]
  rcases blockStep_cases kind blocks s with ⟨hhead, hs⟩ | ⟨head, hhead, hcases⟩
  · cases hs.symm.trans hstep
    rw [List.filterMap_cons_none hhead, List.filterMap_nil, List.append_nil]
    exact h
  · rw [List.filterMap_cons_some hhead, List.filterMap_nil]
    rcases hcases with ⟨hopens, hs⟩ | ⟨hsingle, hs⟩ | ⟨block, rest, rfl, hend, hs⟩ | ⟨-, -, -, hs⟩
    · cases hs.symm.trans hstep
      exact .item h hopens .nil
    · cases hs.symm.trans hstep
      exact h.append (fun _ _ => .append) hsingle
    · cases hs.symm.trans hstep
      exact h.pop (fun _ _ => .append) fun us hus => hus.enclosed h.opens_top hend
    · cases hs.symm.trans hstep

/-- A statement is objected to for its brackets, which count in a flowchart, or for its head. -/
lemma statementStep_eq_error {kind : Text} {blocks : List Head} {s : Statement} {p : Problem}
    (h : statementStep kind blocks s = .error p) :
    (isFlowchart kind = true ∧ checkBrackets s = .error p) ∨
      blockStep kind blocks s = .error p := by
  rw [statementStep] at h
  cases hflow : isFlowchart kind with
  | false =>
    rw [hflow] at h
    exact .inr h
  | true =>
    rw [hflow, if_pos rfl] at h
    cases hbrackets : checkBrackets s with
    | error q =>
      rw [hbrackets] at h
      cases h
      exact .inl ⟨rfl, rfl⟩
    | ok u =>
      rw [hbrackets] at h
      exact .inr h

/-- What the check of some statements comes to: some blocks are left open, or the first objection is
to the brackets of a statement, or to a head that closes a block where none is open. -/
lemma foldlM_statementStep_cases (kind : Text) (ss : List Statement) :
    (∃ blocks, ss.foldlM (statementStep kind) [] = .ok blocks ∧
        OpenBlocks kind (ss.filterMap head?) blocks) ∨
      (∃ s ∈ ss, ∃ p, isFlowchart kind = true ∧ checkBrackets s = .error p ∧
        ss.foldlM (statementStep kind) [] = .error p) ∨
      ∃ front s back head, ss = front ++ s :: back ∧ blockWords kind ≠ [] ∧
        OpenBlocks kind (front.filterMap head?) [] ∧ head? s = some head ∧
        isEnd head.word = true ∧
        ss.foldlM (statementStep kind) [] =
          .error (.at .unexpectedEnd head.line head.column 3) := by
  have hfold := foldlM_cases (statementStep kind)
    (fun ss blocks => OpenBlocks kind (ss.filterMap head?) blocks) [] (.nothing .nil)
    (fun _ _ _ _ h hstep => h.concat ((statementStep_eq_ok_iff kind _ _ _).1 hstep).2) ss
  rcases hfold with ⟨blocks, hfold, hopen⟩ | ⟨front, s, back, blocks, p, rfl, hopen, hs, hfold⟩
  · exact .inl ⟨blocks, hfold, hopen⟩
  rcases statementStep_eq_error hs with ⟨hflow, hbrackets⟩ | hblock
  · exact .inr (.inl ⟨s, by simp, p, hflow, hbrackets, hfold⟩)
  · rcases blockStep_cases kind blocks s with ⟨-, hs⟩ | ⟨head, hhead, hcases⟩
    · cases hs.symm.trans hblock
    · rcases hcases with ⟨-, hs⟩ | ⟨-, hs⟩ | ⟨_, _, _, _, hs⟩ | ⟨hkind, rfl, hend, hs⟩
      · cases hs.symm.trans hblock
      · cases hs.symm.trans hblock
      · cases hs.symm.trans hblock
      · cases hs.symm.trans hblock
        exact .inr (.inr ⟨front, s, back, head, rfl, hkind, hopen, hhead, hend, hfold⟩)

/-! ## Diagrams -/

/-- The lines of a group are among those that are grouped. -/
lemma mem_of_mem_groups {ls g : List ScannedLine} (hg : g ∈ groups ls) {l : ScannedLine}
    (hl : l ∈ g) : l ∈ ls := by
  obtain ⟨⟨rest, hlines, -⟩, -⟩ := groups_spec ls
  rw [hlines]
  exact List.mem_append_left rest (List.mem_flatten.2 ⟨g, hg, hl⟩)

/-- The check of a text is that of the lines from its declaration on. -/
lemma check_eq {t : Text} {d : Declaration} (hd : Declares false 1 (Text.lines t) d) :
    check t = checkLines d.scan := by
  rw [← declarationFrom?_eq_some_iff, ← declaration?] at hd
  rw [check, hd]
  rfl

/-- The check of the lines from a declaration on. -/
lemma checkLines_scan (d : Declaration) : checkLines d.scan =
    if Keyword.isDiagramKind d.kind = true then
      d.statements.foldlM (statementStep d.kind) [] >>= checkEnd d.scan
    else .error (.at (.unknownDiagramType d.kind) d.number (Text.margin d.line) d.kind.length) := by
  show checkLines (⟨d.number, d.line, _, _⟩ :: d.scan.tail) = _
  rw [checkLines, foldlM_statements]
  show (if (!Keyword.isDiagramKind d.kind) = true then _ else _) = _
  cases Keyword.isDiagramKind d.kind <;> rfl

end Mermaid.Structure
