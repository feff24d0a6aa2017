import Mermaid.Proofs.Structure.Acceptance
import Mermaid.Proofs.Structure.Reading
import Mathlib.Data.Option.NAry

/-!
# Pairs of heads

The block check keeps a stack of open blocks, and a statement that closes a block takes the head of
the innermost one off it. What stands between the two heads of such a pair is balanced.

* `Structure.blockPairs` lists the pairs, from the stacks of the check itself;
* `Structure.exists_of_mem_blockPairs` says what stands between the heads of a pair;
* `Structure.filterMap_head?_statements` reads the heads of statements off the lines.
-/

namespace Mermaid.Structure

/-- The head that is taken off the open blocks. -/
def popped? (blocks after : List Head) : Option Head :=
  if after.length < blocks.length then blocks.head? else none

/-- The pairs of a head that opens a block and the head that takes it off the open blocks, below
some open blocks. -/
def blockPairs (kind : Text) (blocks : List Head) : List Statement → List (Head × Head)
  | [] => []
  | s :: ss =>
    match blockStep kind blocks s with
    | .error _ => []
    | .ok after =>
      (Option.map₂ Prod.mk (popped? blocks after) (head? s)).toList ++ blockPairs kind after ss

/-- The heads that some words are the words of. -/
def wordsOf (hs : List Head) : List Text := hs.map Head.word

/-! ## Between the heads of a pair -/

/-- Whether some heads start with those of `depth` blocks' ends, and a head that closes one more. -/
structure EndsWith (kind : Text) (depth : Nat) (closed : Head) (hs : List Head) : Prop where
  isEnd : isEnd closed.word = true
  split : ∃ mid post, hs = mid ++ closed :: post ∧
    Balanced (blockWords kind).contains Structure.isEnd depth (wordsOf mid)

/-- Whether a head opens a block among some heads, and another one closes it. -/
def IsPair (kind : Text) (opened closed : Head) (hs : List Head) : Prop :=
  (blockWords kind).contains opened.word = true ∧
    ∃ pre post, hs = pre ++ opened :: post ∧ EndsWith kind 0 closed post

variable {kind : Text} {blocks : List Head} {opened closed head : Head} {hs : List Head}

lemma EndsWith.cons {depth depth' : Nat} (h : EndsWith kind depth' closed hs)
    (hdepth : depth + ((blockWords kind).contains head.word).toNat =
      depth' + (Structure.isEnd head.word).toNat) :
    EndsWith kind depth closed (head :: hs) := by
  obtain ⟨mid, post, rfl, hbalanced⟩ := h.split
  exact ⟨h.isEnd, head :: mid, post, rfl, (Balanced.cons_iff depth' hdepth).2 hbalanced⟩

lemma IsPair.cons (h : IsPair kind opened closed hs) (head : Head) :
    IsPair kind opened closed (head :: hs) := by
  obtain ⟨hopens, pre, post, rfl, hends⟩ := h
  exact ⟨hopens, head :: pre, post, rfl, hends⟩

/-- A pair of heads below some open blocks: the block of the first one has been open already, under
others that are closed before it, or is opened later. -/
lemma mem_blockPairs_cases (hkind : blockWords kind ≠ []) {ss : List Statement}
    (h : (opened, closed) ∈ blockPairs kind blocks ss) :
    (∃ above below, blocks = above ++ opened :: below ∧
        EndsWith kind above.length closed (ss.filterMap head?)) ∨
      IsPair kind opened closed (ss.filterMap head?) := by
  induction ss generalizing blocks with
  | nil => cases h
  | cons s ss ih =>
    rw [blockPairs] at h
    cases hhead : head? s with
    | none =>
      -- a statement without a head leaves the open blocks as they are
      rw [blockStep_of_no_head hhead] at h
      rw [List.filterMap_cons_none hhead]
      simp only [hhead, Option.map₂_none_right, Option.toList_none, List.nil_append] at h
      exact ih h
    | some head =>
      rw [List.filterMap_cons_some hhead]
      cases hopens : (blockWords kind).contains head.word with
      | true =>
        have hend := isEnd_of_opens hopens
        rw [blockStep_of_opens hhead hopens] at h
        simp only [popped?, List.length_cons, Nat.not_lt.2 (Nat.le_succ _), if_false,
          Option.map₂_none_left, Option.toList_none, List.nil_append] at h
        rcases ih h with ⟨above, below, hblocks, hends⟩ | hpair
        · cases above with
          | nil =>
            -- the block that is closed is the one opened here
            obtain ⟨rfl, rfl⟩ := List.cons.inj hblocks
            exact .inr ⟨hopens, [], _, rfl, hends⟩
          | cons top above =>
            obtain ⟨rfl, rfl⟩ := List.cons.inj hblocks
            exact .inl ⟨above, below, rfl, hends.cons (by rw [hopens, hend]; rfl)⟩
        · exact .inr (hpair.cons head)
      | false =>
        cases hend : isEnd head.word with
        | false =>
          rw [blockStep_of_neither hhead hopens hend] at h
          simp only [popped?, Nat.lt_irrefl, if_false, Option.map₂_none_left, Option.toList_none,
            List.nil_append] at h
          rcases ih h with ⟨above, below, hblocks, hends⟩ | hpair
          · exact .inl ⟨above, below, hblocks, hends.cons (by rw [hopens, hend])⟩
          · exact .inr (hpair.cons head)
        | true =>
          obtain ⟨hcloses, p, hobjects⟩ := blockStep_of_end hkind hhead hopens hend
          cases blocks with
          | nil =>
            rw [hobjects] at h
            cases h
          | cons block rest =>
            -- the pair is the block opened last with this head, or it comes later
            rw [hcloses] at h
            simp only [popped?, List.length_cons, Nat.lt_succ_self, if_true, List.head?_cons, hhead,
              Option.map₂_some_some, Option.toList_some, List.singleton_append,
              List.mem_cons, Prod.mk.injEq] at h
            rcases h with ⟨rfl, rfl⟩ | h
            · exact .inl ⟨[], rest, rfl, hend, [], _, rfl, Balanced.nil_iff.2 rfl⟩
            · rcases ih h with ⟨above, below, rfl, hends⟩ | hpair
              · exact .inl ⟨block :: above, below, rfl,
                  hends.cons (by rw [hopens, hend, List.length_cons]; rfl)⟩
              · exact .inr (hpair.cons head)

/-- **Pairs.** What stands between a head that opens a block and the one that closes it is balanced.
-/
theorem isPair_of_mem_blockPairs (hkind : blockWords kind ≠ []) {ss : List Statement}
    (h : (opened, closed) ∈ blockPairs kind [] ss) :
    IsPair kind opened closed (ss.filterMap head?) := by
  rcases mem_blockPairs_cases hkind h with ⟨above, below, hblocks, -⟩ | hpair
  · exact absurd hblocks.symm (List.append_ne_nil_of_right_ne_nil _ (List.cons_ne_nil _ _))
  · exact hpair

/-! ## Heads and lines -/

/-- The lines of a group give no head but that of the statement. -/
lemma filterMap_head?_group {l : ScannedLine} {g : List ScannedLine} (hg : IsGroup (l :: g)) :
    (l :: g).filterMap ScannedLine.head? = (head? (statementOf (l :: g))).toList := by
  have hrest : g.filterMap ScannedLine.head? = [] := by
    rw [List.filterMap_eq_nil_iff]
    intro l' hl'
    rw [ScannedLine.head?, (hg.continued l' hl').word]
    rfl
  rw [head?_statementOf hg]
  cases hhead : l.head? with
  | none => rw [List.filterMap_cons_none hhead, hrest]; rfl
  | some head => rw [List.filterMap_cons_some hhead, hrest]; rfl

/-- When no string is open at the end of some lines, each of them stands in a group. -/
lemma flatten_groups {ls : List ScannedLine} (h : finalMode ls = .root) :
    (groups ls).flatten = ls := by
  obtain ⟨⟨rest, hls, hstring⟩, -⟩ := groups_spec ls
  rcases List.eq_nil_or_concat rest with rfl | ⟨front, last, rfl⟩
  · rw [List.append_nil] at hls
    exact hls.symm
  · -- the last of the lines that are left over would leave a string open
    have hlast : last.mode = .string := hstring last (by simp)
    rw [finalMode, hls, List.concat_eq_append, ← List.append_assoc, List.getLast?_concat] at h
    cases hlast.symm.trans h

/-- The heads of the statements are those of the lines. -/
theorem filterMap_head?_statements {mode : Mode} {number : Nat} {lines : List Text}
    (h : finalMode (scanLines mode number lines) = .root) :
    (statements (scanLines mode number lines)).filterMap head? =
      (scanLines mode number lines).filterMap ScannedLine.head? := by
  have hgroups : ∀ gs : List (List ScannedLine), (∀ g ∈ gs, g ≠ [] ∧ IsGroup g) →
      ((gs.map statementOf).filter fun s => !s.isEmpty).filterMap head? =
        gs.flatten.filterMap ScannedLine.head? := by
    intro gs hgs
    induction gs with
    | nil => rfl
    | cons g gs ih =>
      obtain ⟨⟨hne, hg⟩, hrest⟩ := List.forall_mem_cons.1 hgs
      obtain ⟨l, g, rfl⟩ := List.exists_cons_of_ne_nil hne
      rw [List.flatten_cons, List.filterMap_append, filterMap_head?_group hg, List.map_cons,
        ← ih hrest]
      cases hs : statementOf (l :: g) with
      | nil => rfl
      | cons t ts =>
        rw [List.filter_cons_of_pos rfl]
        cases hhead : head? (t :: ts) with
        | none => rw [List.filterMap_cons_none hhead]; rfl
        | some head => rw [List.filterMap_cons_some hhead]; rfl
  rw [statements_eq, hgroups, flatten_groups h]
  intro g hg
  obtain ⟨front, last, rfl, -⟩ := (groups_spec _).2 g hg
  exact ⟨by simp, isGroup_of_mem_groups hg⟩

end Mermaid.Structure
