import Mermaid.Proofs.Layout.Verdict
import Mermaid.Proofs.Structure.Blocks
import Mermaid.Proofs.Structure.BlockWords

/-!
# Levels and nesting

The layout counts the level of a line up and down, and never below zero. This is the depth at which
the line is nested: read from the top down, every closing line cancels the nearest opening line
above it that is not cancelled yet, and is ignored if there is none; the depth of a line is the
number of the opening lines above it that are left.

* `Layout.uncancelled` keeps the opening lines that are left, `Layout.depth` counts them;
* `Layout.mem_openBelow_iff` says which ones are left, without reading from the top down;
* `Layout.format_depth` says how deep the lines of a text are indented.
-/

namespace Mermaid.Layout

open Structure (Balanced)

/-- The numbers of the opening lines that are not cancelled, the nearest one first, below a line
with some number: a closing line cancels the nearest one, if there is one. -/
def openStep (number : Nat) (stack : List Nat) (line : Text) : List Nat :=
  if Keyword.closesBlockAt line then stack.tail
  else if Keyword.opensBlockAt line then number :: stack
  else stack

/-- The opening lines that are not cancelled below some lines, the first of which has some number.
-/
def openBelow (number : Nat) (stack : List Nat) : List Text → List Nat
  | [] => stack
  | raw :: rest => openBelow (number + 1) (openStep number stack (Text.trim raw)) rest

/-- The opening lines among the first lines of a text that none of these lines cancels. -/
def uncancelled (t : Text) (n : Nat) : List Nat := openBelow 1 [] ((Text.lines t).take n)

/-- The depth of a line: the number of opening lines above it that are not cancelled when the line
has been read. -/
def depth (t : Text) (n : Nat) : Nat := ((uncancelled t n).filter (· < n)).length

/-- The spaces in front of a line that has been laid out: none if it is blank. -/
def indentAt (width : Int) (t : Text) (n : Nat) : Text :=
  if Text.trim (Text.lineAt t n) = [] then [] else List.replicate (depth t n * width.toNat) ' '

/-- Whether none of some lines cancels an opening line above them that has `inner` other open ones
below it: the lines in front of a closing one are never balanced below these. -/
def KeepsOpen (inner : Nat) (ls : List Text) : Prop :=
  ∀ between last rest, ls = between ++ last :: rest →
    Keyword.closesBlockAt (Text.trim last) = true →
    ¬Balanced Keyword.opensBlockAt Keyword.closesBlockAt inner (between.map Text.trim)

/-! ## The number of open lines -/

lemma openBelow_append (number : Nat) (stack : List Nat) (ls ms : List Text) :
    openBelow number stack (ls ++ ms) =
      openBelow (number + ls.length) (openBelow number stack ls) ms := by
  induction ls generalizing number stack with
  | nil => rfl
  | cons raw ls ih =>
    rw [List.cons_append, openBelow, openBelow, ih, List.length_cons]
    congr 1
    omega

/-- The level counts the open lines. -/
lemma length_openStep (number : Nat) (stack : List Nat) (line : Text) :
    (openStep number stack line).length = levelAfter stack.length line := by
  rw [openStep, levelAfter, levelOf]
  split
  · next hcloses =>
    rw [Keyword.not_opensBlockAt_of_closesBlockAt hcloses, if_neg (by simp), List.length_tail]
  · split
    · rfl
    · rfl

lemma length_openBelow (number : Nat) (stack : List Nat) (ls : List Text) :
    (openBelow number stack ls).length = levelBelow stack.length ls := by
  induction ls generalizing number stack with
  | nil => rfl
  | cons raw ls ih =>
    rw [openBelow, ih, length_openStep]
    rfl

lemma lt_of_mem_openStep {number : Nat} {stack : List Nat} (hstack : ∀ i ∈ stack, i < number)
    (line : Text) : ∀ i ∈ openStep number stack line, i < number + 1 := by
  have hold : ∀ i ∈ stack, i < number + 1 := fun i hi => Nat.lt_succ_of_lt (hstack i hi)
  rw [openStep]
  split
  · exact fun i hi => hold i (List.mem_of_mem_tail hi)
  · split
    · exact List.forall_mem_cons.2 ⟨Nat.lt_succ_self number, hold⟩
    · exact hold

/-- The open lines stand above. -/
lemma lt_of_mem_openBelow {number : Nat} {stack : List Nat} (hstack : ∀ i ∈ stack, i < number)
    (ls : List Text) : ∀ i ∈ openBelow number stack ls, i < number + ls.length := by
  induction ls generalizing number stack with
  | nil => exact hstack
  | cons raw ls ih =>
    intro i hi
    have hlt := ih (lt_of_mem_openStep hstack (Text.trim raw)) i hi
    rw [List.length_cons]
    omega

/-- A line leaves as many of the open lines above it as its level says. -/
lemma length_filter_openStep {number : Nat} {stack : List Nat} (hstack : ∀ i ∈ stack, i < number)
    (line : Text) :
    ((openStep number stack line).filter (· < number)).length = levelOf stack.length line := by
  have hall : stack.filter (· < number) = stack := by
    rw [List.filter_eq_self]
    simpa using hstack
  have htail : stack.tail.filter (· < number) = stack.tail := by
    rw [List.filter_eq_self]
    intro i hi
    simpa using hstack i (List.mem_of_mem_tail hi)
  rw [openStep, levelOf]
  split
  · rw [htail, List.length_tail]
  · split
    · rw [List.filter_cons_of_neg (by simp), hall]
    · rw [hall]

/-- The depth of a line is its level. -/
lemma depth_eq {t raw : Text} {above below : List Text} {number : Nat}
    (ht : Text.lines t = above ++ raw :: below) (hnumber : number = above.length + 1) :
    depth t number = levelOf (levelBelow 0 above) (Text.trim raw) := by
  have htake : (Text.lines t).take number = above ++ [raw] := by
    rw [ht, hnumber, List.take_length_add_append]
    rfl
  have hstack : ∀ i ∈ openBelow 1 [] above, i < above.length + 1 := by
    intro i hi
    have hlt := @lt_of_mem_openBelow 1 [] (by simp) above i hi
    omega
  have hlength : (openBelow 1 [] above).length = levelBelow 0 above := length_openBelow 1 [] above
  rw [depth, uncancelled, htake, openBelow_append, Nat.add_comm 1, hnumber, openBelow, openBelow,
    length_filter_openStep hstack, hlength]

/-! ## Which lines are open -/

/-- The lines below one that changes the number of open blocks from `inner` to `inner'`. -/
lemma keepsOpen_cons_iff {inner : Nat} (inner' : Nat) {raw : Text} {ls : List Text}
    (h : inner + (Keyword.opensBlockAt (Text.trim raw)).toNat =
      inner' + (Keyword.closesBlockAt (Text.trim raw)).toNat) :
    KeepsOpen inner (raw :: ls) ↔ KeepsOpen inner' ls := by
  constructor
  · intro hopen between last rest hls hcloses hbalanced
    refine hopen (raw :: between) last rest (by rw [hls, List.cons_append]) hcloses ?_
    rw [List.map_cons]
    exact (Balanced.cons_iff inner' h).2 hbalanced
  · intro hopen between last rest hls hcloses hbalanced
    cases between with
    | nil =>
      -- the line closes a block itself, but then another one is open
      obtain ⟨rfl, -⟩ := List.cons.inj hls
      rw [List.map_nil, Balanced.nil_iff] at hbalanced
      rw [hbalanced, hcloses, Keyword.not_opensBlockAt_of_closesBlockAt hcloses] at h
      simp only [Bool.toNat_false, Bool.toNat_true] at h
      omega
    | cons first between =>
      obtain ⟨rfl, hrest⟩ := List.cons.inj hls
      rw [List.map_cons] at hbalanced
      exact hopen between last rest hrest hcloses ((Balanced.cons_iff inner' h).1 hbalanced)

/-- A closing line cancels the nearest open line. -/
lemma not_keepsOpen_cons {raw : Text} {ls : List Text}
    (hcloses : Keyword.closesBlockAt (Text.trim raw) = true) : ¬KeepsOpen 0 (raw :: ls) :=
  fun hopen => hopen [] raw ls rfl hcloses (Balanced.nil_iff.2 rfl)

/-- Whether a line of some lines opens a block that stays open below them. -/
def OpensFor (number : Nat) (ls : List Text) (i : Nat) : Prop :=
  ∃ above raw below, ls = above ++ raw :: below ∧ i = number + above.length ∧
    Keyword.opensBlockAt (Text.trim raw) = true ∧ KeepsOpen 0 below

lemma opensFor_cons_iff {number i : Nat} {raw : Text} {ls : List Text} :
    OpensFor number (raw :: ls) i ↔
      (i = number ∧ Keyword.opensBlockAt (Text.trim raw) = true ∧ KeepsOpen 0 ls) ∨
        OpensFor (number + 1) ls i := by
  constructor
  · rintro ⟨above, first, below, hls, hi, hopens, hopen⟩
    cases above with
    | nil =>
      obtain ⟨rfl, rfl⟩ := List.cons.inj hls
      exact .inl ⟨hi, hopens, hopen⟩
    | cons second above =>
      obtain ⟨-, hrest⟩ := List.cons.inj hls
      refine .inr ⟨above, first, below, hrest, ?_, hopens, hopen⟩
      rw [hi, List.length_cons]
      omega
  · rintro (⟨hi, hopens, hopen⟩ | ⟨above, first, below, hls, hi, hopens, hopen⟩)
    · exact ⟨[], raw, ls, rfl, hi, hopens, hopen⟩
    · refine ⟨raw :: above, first, below, by rw [hls, List.cons_append], ?_, hopens, hopen⟩
      rw [hi, List.length_cons]
      omega

/-- **Open lines.** The lines that are open below some lines are those of the lines above that
none of them cancels, and those among them that open a block and are not cancelled below. -/
lemma mem_openBelow_iff {number : Nat} {stack : List Nat} {ls : List Text} {i : Nat} :
    i ∈ openBelow number stack ls ↔
      (∃ inner, stack[inner]? = some i ∧ KeepsOpen inner ls) ∨ OpensFor number ls i := by
  induction ls generalizing number stack with
  | nil =>
    have hopen : ∀ inner, KeepsOpen inner [] := fun inner between last rest h => by simp at h
    have hnone : ¬OpensFor number [] i := by
      rintro ⟨above, raw, below, hls, -⟩
      simp at hls
    rw [openBelow, List.mem_iff_getElem?]
    simp [hopen, hnone]
  | cons raw ls ih =>
    rw [openBelow, ih, opensFor_cons_iff, ← or_assoc]
    refine or_congr_left ?_
    rw [openStep]
    split
    · next hcloses =>
      -- the nearest open line is cancelled, and the others come nearer by one
      have hopens := Keyword.not_opensBlockAt_of_closesBlockAt hcloses
      have hnearer : ∀ inner, KeepsOpen (inner + 1) (raw :: ls) ↔ KeepsOpen inner ls :=
        fun inner => keepsOpen_cons_iff inner (by rw [hcloses, hopens]; rfl)
      rw [hopens]
      simp only [Bool.false_eq_true, false_and, and_false, or_false]
      constructor
      · rintro ⟨inner, hi, hopen⟩
        rw [List.getElem?_tail] at hi
        exact ⟨inner + 1, hi, (hnearer inner).2 hopen⟩
      · rintro ⟨inner, hi, hopen⟩
        cases inner with
        | zero => exact absurd hopen (not_keepsOpen_cons hcloses)
        | succ inner =>
          refine ⟨inner, ?_, (hnearer inner).1 hopen⟩
          rw [List.getElem?_tail]
          exact hi
    · next hcloses =>
      rw [Bool.not_eq_true] at hcloses
      split
      · next hopens =>
        -- one more line is open, and the others move away by one
        have hfurther : ∀ inner, KeepsOpen inner (raw :: ls) ↔ KeepsOpen (inner + 1) ls :=
          fun inner => keepsOpen_cons_iff (inner + 1) (by rw [hcloses, hopens]; rfl)
        simp only [hfurther, hopens, true_and]
        constructor
        · rintro ⟨inner, hi, hopen⟩
          cases inner with
          | zero => exact .inr ⟨(Option.some.inj hi).symm, hopen⟩
          | succ inner => exact .inl ⟨inner, hi, hopen⟩
        · rintro (⟨inner, hi, hopen⟩ | ⟨rfl, hopen⟩)
          · exact ⟨inner + 1, hi, hopen⟩
          · exact ⟨0, rfl, hopen⟩
      · next hopens =>
        rw [Bool.not_eq_true] at hopens
        have hsame : ∀ inner, KeepsOpen inner (raw :: ls) ↔ KeepsOpen inner ls :=
          fun inner => keepsOpen_cons_iff inner (by rw [hcloses, hopens])
        simp only [hsame, hopens, Bool.false_eq_true, false_and, and_false, or_false]

/-! ## The indentation of lines -/

/-- A number below zero stands for no spaces at every level. -/
lemma toNat_natCast_mul (level : Nat) (width : Int) :
    (level * width).toNat = level * width.toNat := by
  rcases Int.le_total 0 width with hwidth | hwidth
  · obtain ⟨w, rfl⟩ := Int.eq_ofNat_of_zero_le hwidth
    rw [← Int.natCast_mul, Int.toNat_natCast, Int.toNat_natCast]
  · have hnone : level * width ≤ 0 :=
      Int.mul_nonpos_of_nonneg_of_nonpos (Int.natCast_nonneg level) hwidth
    rw [Int.toNat_of_nonpos hnone, Int.toNat_of_nonpos hwidth, Nat.mul_zero]

/-- A line laid out is the trimmed line behind spaces for its depth. -/
lemma render_lineOf (width : Int) {t raw : Text} {above below : List Text} {number : Nat}
    (ht : Text.lines t = above ++ raw :: below) (hnumber : number = above.length + 1) :
    (lineOf (levelBelow 0 above) raw).render width = indentAt width t number ++ Text.trim raw := by
  have hline : Text.lineAt t number = raw := by rw [hnumber, Text.lineAt_of_split ht]
  rw [indentAt, hline, lineOf]
  by_cases hne : Text.trim raw = []
  · rw [if_pos hne, hne]
    rfl
  · rw [if_neg hne, if_neg (by simpa using hne), Line.render, indentation, toNat_natCast_mul,
      depth_eq ht hnumber]

/-- **Levels are nesting depths.** In what comes of a text that can be laid out each line that is
not blank stands behind the spaces for its depth, none if the width is below zero. An opening line
counts as long as it is not cancelled: the lines between it and a closing one below it are not
balanced. -/
theorem format_depth [Platform] (width : Int) (t : Text) :
    (∀ s, format width t = .ok s → ∀ n, 1 ≤ n → Text.trim (Text.lineAt s n) ≠ [] →
        Text.margin (Text.lineAt s n) = depth t n * width.toNat ∧
        Text.lineAt s n =
          List.replicate (depth t n * width.toNat) ' ' ++ Text.trim (Text.lineAt s n)) ∧
      ∀ n i, i ∈ uncancelled t n ↔ OpensFor 1 ((Text.lines t).take n) i := by
  constructor
  · intro s hs n hn hline
    obtain ⟨-, rfl⟩ := format_eq_ok_iff.1 hs
    have htrim : Text.trim (Text.lineAt (render width t) n) = Text.trim (Text.lineAt t n) := by
      rw [Text.trim_lineAt, Text.trim_lineAt, map_trim_lines_render]
    rw [htrim] at hline ⊢
    obtain ⟨above, below, ht, hnumber⟩ := Text.exists_split_of_lineAt hn hline
    rw [lineAt_render width ht hnumber, margin_render hline, depth_eq ht hnumber,
      toNat_natCast_mul, render_lineOf width ht hnumber, indentAt, if_neg hline,
      depth_eq ht hnumber]
    exact ⟨rfl, rfl⟩
  · intro n i
    rw [uncancelled, mem_openBelow_iff]
    simp

section Usual

open Platform.Usual

/-- Two closing words that nothing opened leave the lines below them alone. -/
theorem format_depth_surplus :
    ∃ s, format 2 "end\nend\ngraph TD\nsubgraph a\nA\nend\nB".toList = .ok s ∧
      Text.margin (Text.lineAt s 5) = 4 ∧ Text.margin (Text.lineAt s 7) = 2 := by
  set t := "end\nend\ngraph TD\nsubgraph a\nA\nend\nB".toList
  have hformat : format 2 t =
      .ok "end\nend\ngraph TD\n  subgraph a\n    A\n  end\n  B".toList := by decide +kernel
  obtain ⟨hindented, -⟩ := format_depth 2 t
  have hinner := (hindented _ hformat 5 (by decide) (by decide +kernel)).1
  have houter := (hindented _ hformat 7 (by decide) (by decide +kernel)).1
  have hdepth : depth t 5 = 2 ∧ depth t 7 = 1 := by decide +kernel
  rw [hdepth.1] at hinner
  rw [hdepth.2] at houter
  exact ⟨_, hformat, hinner, houter⟩

/-- A machine word counts the lowest number of spaces, but not twice as many. -/
theorem not_forall_format_depth :
    ¬∀ (width : Int) (t : Text) (n : Nat), 1 ≤ n → Text.trim (Text.lineAt t n) ≠ [] →
      ∃ s, format width t = .ok s ∧
        Text.margin (Text.lineAt s n) = depth t n * width.toNat := by
  intro h
  obtain ⟨s, hs, -⟩ := h (-wordLimit) "graph TD\nsubgraph a\nA\nend".toList 3 (by decide)
    (by decide +kernel)
  have hfault : format (-wordLimit) "graph TD\nsubgraph a\nA\nend".toList =
      .error .uncountable := by
    decide +kernel
  rw [hfault] at hs
  cases hs

end Usual

end Mermaid.Layout
