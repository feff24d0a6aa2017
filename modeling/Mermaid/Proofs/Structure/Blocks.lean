import Mermaid.Proofs.Structure.Statements

/-!
# Balanced blocks

The block check keeps a stack of open blocks. What is left of it in the end tells whether the heads
of the statements are balanced: nothing is closed that was not opened before, and all that was
opened is closed.
-/

namespace Mermaid.Structure

/-- Whether some words are balanced below a number of open blocks: no prefix closes more blocks than
are open, and all of them together close as many. -/
structure Balanced (opens closes : Text → Bool) (depth : Nat) (ws : List Text) : Prop where
  prefix_le : ∀ us, us <+: ws → us.countP closes ≤ depth + us.countP opens
  total : ws.countP closes = depth + ws.countP opens

namespace Balanced

variable {opens closes : Text → Bool} {depth : Nat} {w : Text} {ws : List Text}

/-- No words are balanced exactly when no block is open. -/
lemma nil_iff : Balanced opens closes depth [] ↔ depth = 0 := by
  constructor
  · intro h
    exact (h.total).symm
  · intro hdepth
    rw [hdepth]
    refine ⟨?_, rfl⟩
    intro us hus
    rw [List.prefix_nil.1 hus]
    exact Nat.zero_le _

/-- The words after one that changes the number of open blocks from `depth` to `depth'` are balanced
below the new number. -/
lemma cons_iff (depth' : Nat) (h : depth + (opens w).toNat = depth' + (closes w).toNat) :
    Balanced opens closes depth (w :: ws) ↔ Balanced opens closes depth' ws := by
  have hcount : ∀ (p : Text → Bool) (us : List Text),
      (w :: us).countP p = (p w).toNat + us.countP p := by
    intro p us
    rw [List.countP_cons, Nat.add_comm]
    cases p w <;> rfl
  -- the prefixes of the longer list are the empty one and those of the shorter list behind the word
  constructor
  · intro hb
    constructor
    · intro us hus
      have hle := hb.prefix_le (w :: us) ((List.prefix_cons_inj w).2 hus)
      rw [hcount, hcount opens] at hle
      omega
    · have htotal := hb.total
      rw [hcount, hcount opens] at htotal
      omega
  · intro hb
    constructor
    · intro us hus
      rcases List.prefix_cons_iff.1 hus with rfl | ⟨vs, rfl, hvs⟩
      · exact Nat.zero_le _
      · have hle := hb.prefix_le vs hvs
        rw [hcount, hcount opens]
        omega
    · have htotal := hb.total
      rw [hcount, hcount opens]
      omega

/-- Words that close a block first are not balanced when none is open. -/
lemma not_cons_of_closes (hcloses : closes w = true) (hopens : opens w = false) :
    ¬Balanced opens closes 0 (w :: ws) := by
  intro hb
  have hle := hb.prefix_le [w] ((List.prefix_cons_inj w).2 List.nil_prefix)
  simp [hcloses, hopens] at hle

end Balanced

/-! ## The block check -/

/-- The words at the heads of some statements. -/
def headWords (ss : List Statement) : List Text := (ss.filterMap head?).map Head.word

/-- Whether a word closes a block. -/
def isEnd (w : Text) : Bool := w = endWord

/-- In a kind of diagram without blocks the block check objects to nothing. -/
lemma foldlM_blockStep_of_no_blocks {kind : Text} (hkind : blockWords kind = [])
    (blocks : List Head) (ss : List Statement) :
    ss.foldlM (blockStep kind) blocks = .ok blocks := by
  induction ss with
  | nil => rfl
  | cons s ss ih =>
    have hstep : blockStep kind blocks s = .ok blocks := by
      unfold blockStep
      cases head? s <;> simp [hkind]
    rw [List.foldlM_cons, hstep]
    exact ih

/-- No word opens a block and closes one as well. -/
lemma isEnd_of_opens {kind w : Text} (h : (blockWords kind).contains w = true) :
    isEnd w = false := by
  have hend : (blockWords kind).contains endWord = false := by
    unfold blockWords
    split
    · decide
    · split
      · decide
      · rfl
  rw [isEnd, decide_eq_false_iff_not]
  intro heq
  rw [heq, hend] at h
  cases h

section

variable {kind : Text} {s : Statement} {head : Head}

/-- A statement without a head changes no block. -/
lemma blockStep_of_no_head (hhead : head? s = none) (blocks : List Head) :
    blockStep kind blocks s = .ok blocks := by
  rw [blockStep, hhead]

/-- A head that is a block word opens a block. -/
lemma blockStep_of_opens (hhead : head? s = some head)
    (hopens : (blockWords kind).contains head.word = true) (blocks : List Head) :
    blockStep kind blocks s = .ok (head :: blocks) := by
  rw [blockStep, hhead]
  simp only [hopens, if_true]

/-- A head that neither opens nor closes a block changes none. -/
lemma blockStep_of_neither (hhead : head? s = some head)
    (hopens : (blockWords kind).contains head.word = false) (hend : isEnd head.word = false)
    (blocks : List Head) : blockStep kind blocks s = .ok blocks := by
  rw [isEnd] at hend
  rw [blockStep, hhead]
  simp only [hopens, hend, Bool.false_and, Bool.false_eq_true, if_false]

/-- A head that closes a block closes the innermost one, and is objected to if there is none. -/
lemma blockStep_of_end (hkind : blockWords kind ≠ []) (hhead : head? s = some head)
    (hopens : (blockWords kind).contains head.word = false) (hend : isEnd head.word = true) :
    (∀ block rest, blockStep kind (block :: rest) s = .ok rest) ∧
      ∃ p, blockStep kind [] s = .error p := by
  have hword : (head.word = endWord && !(blockWords kind).isEmpty) = true := by
    rw [isEnd] at hend
    simpa [hkind] using hend
  constructor
  · intro block rest
    rw [blockStep, hhead]
    simp only [hopens, hword, Bool.false_eq_true, if_false, if_true]
  · rw [blockStep, hhead]
    simp only [hopens, hword, Bool.false_eq_true, if_false, if_true]
    exact ⟨_, rfl⟩

end

/-- **Blocks.** In a kind of diagram that has blocks, the block check ends without an open block if
and only if the heads of the statements are balanced. -/
theorem foldlM_blockStep_eq_ok_nil_iff {kind : Text} (hkind : blockWords kind ≠ [])
    (blocks : List Head) (ss : List Statement) :
    ss.foldlM (blockStep kind) blocks = .ok [] ↔
      Balanced (blockWords kind).contains isEnd blocks.length (headWords ss) := by
  -- the number of open blocks is the depth below which the heads that are left are balanced
  induction ss generalizing blocks with
  | nil =>
    rw [headWords, List.filterMap_nil, List.map_nil, Balanced.nil_iff, List.length_eq_zero_iff]
    exact ⟨Except.ok.inj, congrArg Except.ok⟩
  | cons s ss ih =>
    rw [List.foldlM_cons]
    cases hhead : head? s with
    | none =>
      have hwords : headWords (s :: ss) = headWords ss := by
        rw [headWords, List.filterMap_cons_none hhead, headWords]
      rw [blockStep_of_no_head hhead, hwords]
      exact ih blocks
    | some head =>
      have hwords : headWords (s :: ss) = head.word :: headWords ss := by
        rw [headWords, List.filterMap_cons_some hhead, List.map_cons, headWords]
      rw [hwords]
      cases hopens : (blockWords kind).contains head.word with
      | true =>
        have hend := isEnd_of_opens hopens
        rw [blockStep_of_opens hhead hopens,
          Balanced.cons_iff (blocks.length + 1) (by rw [hopens, hend]; rfl)]
        exact ih (head :: blocks)
      | false =>
        cases hend : isEnd head.word with
        | false =>
          rw [blockStep_of_neither hhead hopens hend,
            Balanced.cons_iff blocks.length (by rw [hopens, hend])]
          exact ih blocks
        | true =>
          obtain ⟨hcloses, p, hobjects⟩ := blockStep_of_end hkind hhead hopens hend
          cases blocks with
          | nil =>
            rw [hobjects]
            constructor
            · intro h
              cases h
            · intro h
              exact absurd h (Balanced.not_cons_of_closes hend hopens)
          | cons block rest =>
            rw [hcloses, Balanced.cons_iff rest.length (by rw [hopens, hend]; rfl)]
            exact ih rest

end Mermaid.Structure
