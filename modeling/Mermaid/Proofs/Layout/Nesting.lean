import Mermaid.Proofs.Layout.Outline
import Mermaid.Proofs.Structure.BlockWords
import Mermaid.Proofs.Structure.Pairs
import Mathlib.Data.List.Nodup

/-!
# Layout and the blocks of a flowchart

The structural check matches the heads of statements, the layout counts the words at the start of
lines. Both see every head of a block. The layout alone sees the words that open or close blocks in
other places: diagram kinds, which may be names of nodes in a flowchart, and words inside strings.
Where such stray words are balanced, the heads of a block have the same indentation and the lines
between them are indented deeper.

* `Structure.Declaration.strays` are the lines without a block head between two lines;
* `Layout.levels_between` says which levels the lines of a balanced part have;
* `Layout.format_nests` is the main statement.
-/

namespace Mermaid

namespace Structure

/-- Whether a head opens or closes a block. -/
def isBlockHead (kind : Text) (h : Head) : Bool := (blockWords kind).contains h.word || isEnd h.word

/-- The heads of a diagram that open or close a block. -/
def Declaration.blockHeads (d : Declaration) : List Head :=
  ((Structure.statements d.scan.tail).filterMap head?).filter (isBlockHead d.kind)

/-- The trimmed lines strictly between two lines of a diagram at which no block head stands. -/
def Declaration.strays (d : Declaration) (first last : Nat) : List Text :=
  (d.scan.filter fun l => first < l.number && l.number < last &&
    !d.blockHeads.any fun h => h.line = l.number).map fun l => Text.trim l.text

/-! ## The lines of a scan -/

lemma map_text_scanLines (mode : Mode) (number : Nat) (ls : List Text) :
    (scanLines mode number ls).map ScannedLine.text = ls := by
  induction ls generalizing mode number with
  | nil => rfl
  | cons line ls ih => exact congrArg (line :: ·) (ih _ _)

lemma exists_classify_of_mem_scanLines {mode : Mode} {number : Nat} {ls : List Text}
    {l : ScannedLine} (hl : l ∈ scanLines mode number ls) :
    ∃ m, l.tokens = (Lexer.classify m l.text).1 := by
  induction ls generalizing mode number with
  | nil => cases hl
  | cons line ls ih =>
    rcases List.mem_cons.1 hl with rfl | hmem
    · exact ⟨mode, rfl⟩
    · exact ih hmem

lemma number_of_scanLines_eq {mode : Mode} {number : Nat} {ls : List Text} {l : ScannedLine}
    {before after : List ScannedLine} (h : scanLines mode number ls = before ++ l :: after) :
    l.number = number + before.length := by
  induction before generalizing mode number ls with
  | nil =>
    cases ls with
    | nil => cases h
    | cons line ls =>
      obtain ⟨rfl, -⟩ := List.cons.inj h
      rfl
  | cons first before ih =>
    cases ls with
    | nil => cases h
    | cons line ls =>
      obtain ⟨-, hrest⟩ := List.cons.inj h
      rw [ih hrest, List.length_cons]
      omega

/-- The layout sees the head of a line. -/
lemma startsLine_of_head? {l : ScannedLine} {head : Head} (hline : '\n' ∉ l.text)
    (htokens : ∃ m, l.tokens = (Lexer.classify m l.text).1) (h : l.head? = some head) :
    Keyword.startsLine (Text.trim l.text) head.word = true ∧ head.line = l.number := by
  obtain ⟨m, hm⟩ := htokens
  rw [ScannedLine.head?, hm, Option.map_eq_some_iff] at h
  obtain ⟨t, ht, rfl⟩ := h
  exact ⟨startsLine_of_firstWord? hline ht, rfl⟩

/-- The head of a line opens or closes a block. -/
def ScannedLine.hasBlockHead (kind : Text) (l : ScannedLine) : Bool :=
  l.head?.any (isBlockHead kind)

/-- The trimmed lines among some lines that have no block head. -/
def straysOf (kind : Text) (ls : List ScannedLine) : List Text :=
  (ls.filter fun l => !l.hasBlockHead kind).map fun l => Text.trim l.text

/-- The words of the heads of some lines. -/
def headWordsOf (ls : List ScannedLine) : List Text := wordsOf (ls.filterMap ScannedLine.head?)

end Structure

namespace Layout

open Structure

variable {kind : Text}

/-! ## One line -/

/-- The layout opens a block where the check does. -/
lemma opensBlockAt_of_head {l : ScannedLine} {head : Head} (hflow : isFlowchart kind = true)
    (hstarts : Keyword.startsLine (Text.trim l.text) head.word = true)
    (hopens : (blockWords kind).contains head.word = true) :
    Keyword.opensBlockAt (Text.trim l.text) = true ∧
      Keyword.closesBlockAt (Text.trim l.text) = false := by
  have hword : head.word = "subgraph".toList := by
    rw [blockWords, if_pos hflow] at hopens
    simpa using hopens
  have hopensAt : Keyword.opensBlockAt (Text.trim l.text) = true := by
    refine List.any_eq_true.2 ⟨head.word, ?_, hstarts⟩
    rw [hword]
    decide
  refine ⟨hopensAt, Bool.eq_false_iff.2 fun hcloses => ?_⟩
  rw [Keyword.not_opensBlockAt_of_closesBlockAt hcloses] at hopensAt
  cases hopensAt

/-- The layout closes a block where the check does. -/
lemma closesBlockAt_of_head {l : ScannedLine} {head : Head}
    (hstarts : Keyword.startsLine (Text.trim l.text) head.word = true)
    (hend : isEnd head.word = true) :
    Keyword.closesBlockAt (Text.trim l.text) = true := by
  refine List.any_eq_true.2 ⟨head.word, ?_, hstarts⟩
  rw [of_decide_eq_true hend]
  decide

/-- Whether a trimmed line stands on the level of a balanced part or deeper, and the part goes on
below it. -/
structure StaysInside (kind : Text) (base level : Nat) (line : Text) (ls : List ScannedLine) :
    Prop where
  inside : base ≤ levelOf level line
  below : ∃ heads strays, levelAfter level line = base + heads + strays ∧
    Balanced (blockWords kind).contains isEnd heads (headWordsOf ls) ∧
    Balanced Keyword.opensBlockAt Keyword.closesBlockAt strays (straysOf kind ls)

/-- A line that opens or closes a block for the layout alone. -/
lemma stray_step {line : Text} {ws : List Text} (level : Nat) {strays : Nat}
    (h : Balanced Keyword.opensBlockAt Keyword.closesBlockAt strays (line :: ws)) :
    level ≤ levelOf (level + strays) line ∧
      ∃ strays', levelAfter (level + strays) line = level + strays' ∧
        Balanced Keyword.opensBlockAt Keyword.closesBlockAt strays' ws := by
  cases hcloses : Keyword.closesBlockAt line with
  | true =>
    have hopens := Keyword.not_opensBlockAt_of_closesBlockAt hcloses
    cases strays with
    | zero => exact absurd h (Balanced.not_cons_of_closes hcloses hopens)
    | succ strays =>
      simp only [levelAfter, levelOf, hcloses, hopens, if_true, Bool.false_eq_true, if_false]
      exact ⟨by omega, strays, by omega,
        (Balanced.cons_iff strays (by rw [hcloses, hopens]; rfl)).1 h⟩
  | false =>
    cases hopens : Keyword.opensBlockAt line with
    | true =>
      simp only [levelAfter, levelOf, hcloses, hopens, if_true, Bool.false_eq_true, if_false]
      exact ⟨by omega, strays + 1, by omega,
        (Balanced.cons_iff (strays + 1) (by rw [hcloses, hopens]; rfl)).1 h⟩
    | false =>
      simp only [levelAfter, levelOf, hcloses, hopens, Bool.false_eq_true, if_false]
      exact ⟨by omega, strays, rfl, (Balanced.cons_iff strays (by rw [hcloses, hopens])).1 h⟩

/-- The lines of a balanced part stay inside it. -/
lemma staysInside (hflow : isFlowchart kind = true) {l : ScannedLine} {ls : List ScannedLine}
    (hline : '\n' ∉ l.text) (htokens : ∃ m, l.tokens = (Lexer.classify m l.text).1)
    (base : Nat) {heads strays : Nat}
    (hheads : Balanced (blockWords kind).contains isEnd heads (headWordsOf (l :: ls)))
    (hstrays :
      Balanced Keyword.opensBlockAt Keyword.closesBlockAt strays (straysOf kind (l :: ls))) :
    StaysInside kind base (base + heads + strays) (Text.trim l.text) ls := by
  -- a line without a block head leaves the heads alone, and may be a stray opener or closer
  have hstray : l.hasBlockHead kind = false →
      Balanced (blockWords kind).contains isEnd heads (headWordsOf ls) →
      StaysInside kind base (base + heads + strays) (Text.trim l.text) ls := by
    intro hnone hheads
    rw [straysOf, List.filter_cons_of_pos (by rw [hnone]; rfl), List.map_cons, ← straysOf]
      at hstrays
    obtain ⟨hlevel, strays', hafter, hstrays'⟩ := stray_step (base + heads) hstrays
    exact ⟨Nat.le_trans (Nat.le_add_right base heads) hlevel, heads, strays', hafter, hheads,
      hstrays'⟩
  cases hhead : l.head? with
  | none =>
    rw [headWordsOf, List.filterMap_cons_none hhead] at hheads
    exact hstray (by rw [ScannedLine.hasBlockHead, hhead]; rfl) hheads
  | some head =>
    obtain ⟨hstarts, -⟩ := startsLine_of_head? hline htokens hhead
    have hblock : l.hasBlockHead kind = isBlockHead kind head := by
      rw [ScannedLine.hasBlockHead, hhead]
      rfl
    rw [headWordsOf, List.filterMap_cons_some hhead, wordsOf, List.map_cons, ← wordsOf,
      ← headWordsOf] at hheads
    cases hopens : (blockWords kind).contains head.word with
    | true =>
      obtain ⟨hopensAt, hclosesAt⟩ := opensBlockAt_of_head hflow hstarts hopens
      rw [straysOf, List.filter_cons_of_neg (by rw [hblock, isBlockHead, hopens]; simp),
        ← straysOf] at hstrays
      refine ⟨?_, heads + 1, strays, ?_,
        (Balanced.cons_iff (heads + 1) (by rw [hopens, isEnd_of_opens hopens]; rfl)).1 hheads,
        hstrays⟩ <;>
      simp only [levelAfter, levelOf, hopensAt, hclosesAt, if_true, Bool.false_eq_true,
        if_false] <;>
      omega
    | false =>
      cases hend : isEnd head.word with
      | false =>
        exact hstray (by rw [hblock, isBlockHead, hopens, hend]; rfl)
          ((Balanced.cons_iff heads (by rw [hopens, hend])).1 hheads)
      | true =>
        have hclosesAt := closesBlockAt_of_head hstarts hend
        have hopensAt := Keyword.not_opensBlockAt_of_closesBlockAt hclosesAt
        rw [straysOf, List.filter_cons_of_neg (by rw [hblock, isBlockHead, hend]; simp),
          ← straysOf] at hstrays
        cases heads with
        | zero => exact absurd hheads (Balanced.not_cons_of_closes hend hopens)
        | succ heads =>
          refine ⟨?_, heads, strays, ?_,
            (Balanced.cons_iff heads (by rw [hopens, hend]; rfl)).1 hheads, hstrays⟩ <;>
          simp only [levelAfter, levelOf, hopensAt, hclosesAt, if_true, Bool.false_eq_true,
            if_false] <;>
          omega

/-- The levels of the lines of a balanced part. -/
lemma levels_between (hflow : isFlowchart kind = true) {ls : List ScannedLine}
    (hlines : ∀ l ∈ ls, '\n' ∉ l.text)
    (htokens : ∀ l ∈ ls, ∃ m, l.tokens = (Lexer.classify m l.text).1) (base : Nat)
    {heads strays : Nat}
    (hheads : Balanced (blockWords kind).contains isEnd heads (headWordsOf ls))
    (hstrays : Balanced Keyword.opensBlockAt Keyword.closesBlockAt strays (straysOf kind ls)) :
    levelBelow (base + heads + strays) (ls.map ScannedLine.text) = base ∧
      ∀ before l after, ls = before ++ l :: after →
        base ≤ levelOf (levelBelow (base + heads + strays) (before.map ScannedLine.text))
          (Text.trim l.text) := by
  induction ls generalizing heads strays with
  | nil =>
    rw [Balanced.nil_iff.1 hheads, Balanced.nil_iff.1 hstrays]
    exact ⟨rfl, fun before l after h => absurd h.symm (by simp)⟩
  | cons l ls ih =>
    obtain ⟨hline, hlines⟩ := List.forall_mem_cons.1 hlines
    obtain ⟨htoken, htokens⟩ := List.forall_mem_cons.1 htokens
    obtain ⟨hlevel, heads', strays', hafter, hheads', hstrays'⟩ :=
      staysInside hflow hline htoken base hheads hstrays
    obtain ⟨hreturn, hdeeper⟩ := ih hlines htokens hheads' hstrays'
    have hbelow : ∀ us, levelBelow (base + heads + strays) (l.text :: us) =
        levelBelow (base + heads' + strays') us := fun us => congrArg (levelBelow · us) hafter
    refine ⟨(hbelow _).trans hreturn, ?_⟩
    intro before m after hsplit
    cases before with
    | nil =>
      obtain ⟨rfl, -⟩ := List.cons.inj hsplit
      exact hlevel
    | cons first before =>
      obtain ⟨rfl, hrest⟩ := List.cons.inj hsplit
      rw [List.map_cons, hbelow]
      exact hdeeper before m after hrest

end Layout

namespace Structure

/-! ## The lines between the heads of a pair -/

/-- The lines strictly between two lines of a scan. -/
lemma filter_between {above between below : List ScannedLine} {first last : ScannedLine}
    (h : (above ++ first :: (between ++ last :: below)).Pairwise fun l l' => l.number < l'.number)
    (p : ScannedLine → Bool) :
    (above ++ first :: (between ++ last :: below)).filter
        (fun l => first.number < l.number && l.number < last.number && p l) =
      between.filter p := by
  obtain ⟨-, hfirst, habove⟩ := List.pairwise_append.1 h
  obtain ⟨hbelow, hrest⟩ := List.pairwise_cons.1 hfirst
  obtain ⟨-, hlast, hbetween⟩ := List.pairwise_append.1 hrest
  obtain ⟨hafter, -⟩ := List.pairwise_cons.1 hlast
  have hnone : above.filter
      (fun l => first.number < l.number && l.number < last.number && p l) = [] := by
    rw [List.filter_eq_nil_iff]
    intro l hl
    have := habove l hl first List.mem_cons_self
    simp [Nat.not_lt.2 (Nat.le_of_lt this)]
  have hall : between.filter
      (fun l => first.number < l.number && l.number < last.number && p l) = between.filter p := by
    refine List.filter_congr fun l hl => ?_
    have hlower := hbelow l (List.mem_append_left _ hl)
    have hupper := hbetween l hl last List.mem_cons_self
    simp [hlower, hupper]
  have hnone' : below.filter
      (fun l => first.number < l.number && l.number < last.number && p l) = [] := by
    rw [List.filter_eq_nil_iff]
    intro l hl
    have := hafter l hl
    simp [Nat.not_lt.2 (Nat.le_of_lt this)]
  rw [List.filter_append, hnone, List.filter_cons_of_neg (by simp), List.filter_append, hall,
    List.filter_cons_of_neg (by simp), hnone']
  simp

/-- What stands around the heads of a pair. -/
structure Around (d : Declaration) (opened closed : Head) (above : List ScannedLine)
    (first : ScannedLine) (between : List ScannedLine) (last : ScannedLine)
    (below : List ScannedLine) : Prop where
  scan : d.scan = above ++ first :: (between ++ last :: below)
  firstHead : first.head? = some opened
  lastHead : last.head? = some closed
  opens : (blockWords d.kind).contains opened.word = true
  isEnd : Structure.isEnd closed.word = true
  heads : Balanced (blockWords d.kind).contains Structure.isEnd 0 (headWordsOf between)
  strays : d.strays first.number last.number = straysOf d.kind between

/-- A line of a scan has a block head if the head of a statement on that line opens or closes a
block. -/
lemma any_blockHeads {d : Declaration} (hclosed : finalMode d.scan.tail = .root) {l : ScannedLine}
    (hl : l ∈ d.scan.tail) :
    (d.blockHeads.any fun h => h.line = l.number) = l.hasBlockHead d.kind := by
  have hheads : (statements d.scan.tail).filterMap head? =
      d.scan.tail.filterMap ScannedLine.head? := filterMap_head?_statements hclosed
  have hnumbers : (d.scan.tail.map ScannedLine.number).Nodup :=
    (List.pairwise_map.2 (pairwise_scanLines _ (d.number + 1) d.rest).1).imp Nat.ne_of_lt
  have hline : ∀ (m : ScannedLine) (h : Head), m.head? = some h → h.line = m.number := by
    intro m h hm
    obtain ⟨t, -, rfl⟩ := Option.map_eq_some_iff.1 hm
    rfl
  rw [Declaration.blockHeads, hheads, List.any_filter, Bool.eq_iff_iff, List.any_eq_true,
    ScannedLine.hasBlockHead, Option.any_eq_true]
  constructor
  · rintro ⟨h, hh, hblock⟩
    obtain ⟨m, hm, hhead⟩ := List.mem_filterMap.1 hh
    rw [Bool.and_eq_true, decide_eq_true_eq] at hblock
    obtain rfl : m = l :=
      List.inj_on_of_nodup_map hnumbers hm hl ((hline m h hhead).symm.trans hblock.2)
    exact ⟨h, hhead, hblock.1⟩
  · rintro ⟨h, hhead, hblock⟩
    refine ⟨h, List.mem_filterMap.2 ⟨l, hl, hhead⟩, ?_⟩
    rw [hblock, hline l h hhead]
    simp

/-- The heads of a pair stand on lines of the diagram, and between them the heads are balanced. -/
lemma exists_around {d : Declaration} (hclosed : finalMode d.scan.tail = .root)
    (hkind : blockWords d.kind ≠ []) {opened closed : Head}
    (hpair : (opened, closed) ∈ blockPairs d.kind [] (statements d.scan.tail)) :
    ∃ above first between last below, Around d opened closed above first between last below := by
  obtain ⟨hopens, before, after, hheads, hends⟩ := isPair_of_mem_blockPairs hkind hpair
  obtain ⟨mid, post, rfl, hbalanced⟩ := hends.split
  have hlines : d.scan.tail.filterMap ScannedLine.head? =
      before ++ opened :: (mid ++ closed :: post) :=
    (filterMap_head?_statements hclosed).symm.trans hheads
  -- lines without a head may stand before the line of each head
  obtain ⟨above, rest, htail, -, hrest⟩ := List.filterMap_eq_append_iff.1 hlines
  obtain ⟨above', first, rest', rfl, -, hfirst, hrest'⟩ := List.filterMap_eq_cons_iff.1 hrest
  obtain ⟨between, rest'', rfl, hbetween, hrest''⟩ := List.filterMap_eq_append_iff.1 hrest'
  obtain ⟨between', last, below, rfl, hnone, hlast, -⟩ := List.filterMap_eq_cons_iff.1 hrest''
  obtain ⟨declaration, hdeclaration⟩ : ∃ l, d.scan = l :: d.scan.tail := ⟨_, rfl⟩
  have hscan : d.scan = (declaration :: (above ++ above')) ++
      first :: ((between ++ between') ++ last :: below) := by
    rw [hdeclaration, htail]
    simp
  refine ⟨_, first, between ++ between', last, below, hscan, hfirst, hlast, hopens, hends.isEnd, ?_,
    ?_⟩
  · rw [headWordsOf, List.filterMap_append, hbetween, List.filterMap_eq_nil_iff.2 hnone,
      List.append_nil]
    exact hbalanced
  · have hpairwise := (pairwise_scanLines .root d.number (d.line :: d.rest)).1
    rw [← Declaration.scan, hscan] at hpairwise
    have hmem : ∀ l ∈ between ++ between', l ∈ d.scan.tail := by
      intro l hl
      rw [htail, ← List.append_assoc above]
      simp only [List.mem_append, List.mem_cons] at hl ⊢
      tauto
    rw [Declaration.strays, straysOf, hscan, filter_between hpairwise]
    refine congrArg _ (List.filter_congr fun l hl => ?_)
    rw [any_blockHeads hclosed (hmem l hl)]

/-- The lines around a line of the scan are lines of the text. -/
lemma lines_of_scan {t : Text} {d : Declaration} (hd : declaration? t = some d)
    {above below : List ScannedLine} {l : ScannedLine} (hscan : d.scan = above ++ l :: below) :
    ∃ us, Text.lines t = us ++ l.text :: below.map ScannedLine.text ∧ l.number = us.length + 1 := by
  obtain ⟨before, hlines, hnumber, -⟩ := (declarationFrom?_eq_some_iff false 1 _ d).1 hd
  have htexts := map_text_scanLines .root d.number (d.line :: d.rest)
  rw [← Declaration.scan, hscan, List.map_append, List.map_cons] at htexts
  refine ⟨before ++ above.map ScannedLine.text, ?_, ?_⟩
  · rw [hlines, ← htexts, List.append_assoc]
  · rw [number_of_scanLines_eq hscan, hnumber, List.length_append, List.length_map]
    omega

/-- The lines of a scan have no line feeds. -/
lemma not_mem_text_of_mem_scan {t : Text} {d : Declaration} (hd : declaration? t = some d) :
    ∀ l ∈ d.scan, '\n' ∉ l.text := by
  obtain ⟨before, hlines, -⟩ := (declarationFrom?_eq_some_iff false 1 _ d).1 hd
  intro l hl
  have htext := List.mem_map_of_mem (f := ScannedLine.text) hl
  rw [Declaration.scan, map_text_scanLines] at htext
  exact Text.not_mem_of_mem_lines (hlines ▸ List.mem_append_right before htext)

end Structure

namespace Layout

open Structure

lemma levelBelow_append (level : Nat) (ls ms : List Text) :
    levelBelow level (ls ++ ms) = levelBelow (levelBelow level ls) ms := List.foldl_append

lemma trim_ne_nil_of_opensBlockAt {raw : Text} (h : Keyword.opensBlockAt (Text.trim raw) = true) :
    Text.trim raw ≠ [] := by
  intro hnil
  rw [hnil] at h
  exact absurd h (by decide)

lemma trim_ne_nil_of_closesBlockAt {raw : Text} (h : Keyword.closesBlockAt (Text.trim raw) = true) :
    Text.trim raw ≠ [] := by
  intro hnil
  rw [hnil] at h
  exact absurd h (by decide)

/-- A line that is deeper has a larger margin. -/
lemma margin_lt_margin {width : Int} (hwidth : 1 ≤ width) {level deeper : Nat}
    (h : level < deeper) : (level * width).toNat < (deeper * width).toNat := by
  obtain ⟨w, rfl⟩ := Int.eq_ofNat_of_zero_le (show 0 ≤ width by omega)
  rw [← Int.natCast_mul, ← Int.natCast_mul, Int.toNat_natCast, Int.toNat_natCast]
  exact Nat.mul_lt_mul_of_pos_right h (by omega)

/-- The levels of the lines of a block, whose first line stands at some level. -/
structure BlockLevels (level : Nat) (first : ScannedLine) (between : List ScannedLine)
    (last : ScannedLine) : Prop where
  firstLine : Text.trim first.text ≠ []
  firstLevel : levelOf level (Text.trim first.text) = level
  deeper : ∀ before l after, between = before ++ l :: after →
    level <
      levelOf (levelBelow level (first.text :: before.map ScannedLine.text)) (Text.trim l.text)
  lastLine : Text.trim last.text ≠ []
  lastLevel : levelOf (levelBelow level (first.text :: between.map ScannedLine.text))
    (Text.trim last.text) = level

lemma blockLevels {d : Declaration} (hflow : isFlowchart d.kind = true) {opened closed : Head}
    {above between below : List ScannedLine} {first last : ScannedLine}
    (h : Around d opened closed above first between last below)
    (hlines : ∀ l ∈ d.scan, '\n' ∉ l.text)
    (hstrays : Balanced Keyword.opensBlockAt Keyword.closesBlockAt 0
      (d.strays first.number last.number)) (level : Nat) :
    BlockLevels level first between last := by
  have hmem : ∀ l, l = first ∨ l ∈ between ∨ l = last → l ∈ d.scan := by
    intro l hl
    rw [h.scan]
    simp only [List.mem_append, List.mem_cons]
    tauto
  have htokens : ∀ l ∈ d.scan, ∃ m, l.tokens = (Lexer.classify m l.text).1 :=
    fun l hl => exists_classify_of_mem_scanLines hl
  have hfirst := hmem first (.inl rfl)
  have hlast := hmem last (.inr (.inr rfl))
  obtain ⟨hstarts, -⟩ :=
    startsLine_of_head? (hlines first hfirst) (htokens first hfirst) h.firstHead
  obtain ⟨hopensAt, hclosesAt⟩ := opensBlockAt_of_head hflow hstarts h.opens
  obtain ⟨hstarts', -⟩ := startsLine_of_head? (hlines last hlast) (htokens last hlast) h.lastHead
  have hclosesAt' := closesBlockAt_of_head hstarts' h.isEnd
  -- the first line opens a level, and the lines between come back to it
  have hinside : ∀ us, levelBelow level (first.text :: us) = levelBelow (level + 1 + 0 + 0) us := by
    intro us
    show levelBelow (levelAfter level (Text.trim first.text)) us = _
    rw [levelAfter, levelOf, hopensAt, hclosesAt]
    rfl
  rw [h.strays] at hstrays
  obtain ⟨hreturn, hdeeper⟩ := levels_between hflow
    (fun l hl => hlines l (hmem l (.inr (.inl hl))))
    (fun l hl => htokens l (hmem l (.inr (.inl hl)))) (level + 1) h.heads hstrays
  exact {
    firstLine := trim_ne_nil_of_opensBlockAt hopensAt
    firstLevel := by rw [levelOf, hclosesAt]; rfl
    deeper := by
      intro before l after hsplit
      rw [hinside]
      exact hdeeper before l after hsplit
    lastLine := trim_ne_nil_of_closesBlockAt hclosesAt'
    lastLevel := by
      rw [hinside, hreturn, levelOf, hclosesAt']
      rfl }

/-- **Layout and blocks.** In a flowchart that the check accepts, let a head be matched with the one
that closes its block, and let the lines between them without a block head be balanced as the layout
sees them. Then the lines of both heads are laid out with the same indentation, and all lines
between them that are not blank are indented deeper. -/
theorem format_nests [Platform] {t s : Text} {d : Declaration} {width : Int} {opened closed : Head}
    (hcheck : check t = .ok ()) (hd : declaration? t = some d) (hflow : isFlowchart d.kind = true)
    (hwidth : 1 ≤ width) (hformat : format width t = .ok s)
    (hpair : (opened, closed) ∈ blockPairs d.kind [] (statements d.scan.tail))
    (hstrays : Balanced Keyword.opensBlockAt Keyword.closesBlockAt 0
      (d.strays opened.line closed.line)) :
    opened.line < closed.line ∧
      Text.margin (Text.lineAt s opened.line) = Text.margin (Text.lineAt s closed.line) ∧
      ∀ n, opened.line < n → n < closed.line → Text.isBlankText (Text.lineAt s n) = false →
        Text.margin (Text.lineAt s opened.line) < Text.margin (Text.lineAt s n) := by
  obtain ⟨-, rfl⟩ := format_eq_ok_iff.1 hformat
  have haccepted : d.IsAccepted := by
    rw [check, hd] at hcheck
    exact (checkLines_scan_eq_ok_iff d).1 hcheck
  obtain ⟨above, first, between, last, below, haround⟩ := exists_around
    (finalMode_tail haccepted.closed) ((blockWords_ne_nil_iff d.kind).2 (.inl hflow)) hpair
  obtain ⟨us, hlines, hnumber⟩ := lines_of_scan hd haround.scan
  -- the heads of the pair stand on the first and the last line of the block
  have hopened : opened.line = first.number := by
    obtain ⟨u, -, rfl⟩ := Option.map_eq_some_iff.1 haround.firstHead
    rfl
  have hclosed : closed.line = last.number := by
    obtain ⟨u, -, rfl⟩ := Option.map_eq_some_iff.1 haround.lastHead
    rfl
  have hlast : last.number = first.number + between.length + 1 := by
    have hsplit : d.scan = (above ++ first :: between) ++ last :: below := by
      rw [haround.scan, List.append_assoc]
      rfl
    rw [number_of_scanLines_eq haround.scan, number_of_scanLines_eq hsplit, List.length_append,
      List.length_cons]
    omega
  rw [hopened, hclosed] at hstrays ⊢
  have hlevels := blockLevels hflow haround (not_mem_text_of_mem_scan hd) hstrays (levelBelow 0 us)
  -- the texts of the block's lines, and the margins they are laid out with
  rw [List.map_append, List.map_cons] at hlines
  have hbetween : ∀ (before after : List ScannedLine) (l : ScannedLine),
      between ++ last :: below = before ++ l :: after →
      Text.lineAt (render width t) (first.number + before.length + 1) =
        (lineOf (levelBelow (levelBelow 0 us) (first.text :: before.map ScannedLine.text))
          l.text).render width := by
    intro before after l hsplit
    rw [← List.map_cons, ← List.map_append, hsplit, List.map_append, List.map_cons,
      ← List.cons_append, ← List.append_assoc] at hlines
    rw [lineAt_render width hlines, levelBelow_append]
    simp only [List.length_append, List.length_cons, List.length_map]
    omega
  have hfirst : Text.margin (Text.lineAt (render width t) first.number) =
      (levelBelow 0 us * width).toNat := by
    rw [lineAt_render width hlines hnumber, margin_render hlevels.firstLine, hlevels.firstLevel]
  refine ⟨by omega, ?_, ?_⟩
  · rw [hfirst, hlast, hbetween between below last rfl, margin_render hlevels.lastLine,
      hlevels.lastLevel]
  · intro n hlower hupper hblank
    -- the line is one of those between
    have hindex : n - first.number - 1 < between.length := by omega
    have hsplit : between = between.take (n - first.number - 1) ++
        between[n - first.number - 1] :: between.drop (n - first.number - 1 + 1) := by
      rw [← List.drop_eq_getElem_cons hindex, List.take_append_drop]
    have hline := hbetween (between.take (n - first.number - 1)) (between.drop _ ++ last :: below)
      between[n - first.number - 1] (by rw [← List.cons_append, ← List.append_assoc, ← hsplit])
    rw [List.length_take, Nat.min_eq_left (Nat.le_of_lt hindex),
      show first.number + (n - first.number - 1) + 1 = n by omega] at hline
    have htext : Text.trim between[n - first.number - 1].text ≠ [] := by
      intro hnil
      rw [hline, lineOf, if_pos (by rw [hnil]; rfl)] at hblank
      cases hblank
    rw [hfirst, hline, margin_render htext]
    exact margin_lt_margin hwidth (hlevels.deeper _ _ _ hsplit)

section Usual

open Platform.Usual

/-- The lines of a string open and close a block for the layout alone, between the heads of a block.
-/
theorem format_nests_strays :
    ∃ s, format 4 "graph TD\nsubgraph a\nx[\"\npie\nend\"]\nend".toList = .ok s ∧
      Text.margin (Text.lineAt s 2) = Text.margin (Text.lineAt s 6) := by
  set t := "graph TD\nsubgraph a\nx[\"\npie\nend\"]\nend".toList
  set d : Declaration := ⟨1, "graph TD".toList,
    ["subgraph a".toList, "x[\"".toList, "pie".toList, "end\"]".toList, "end".toList]⟩
  have hformat : format 4 t = .ok (render 4 t) := by decide +kernel
  have hcheck : check t = .ok () := check_eq_ok (by decide +kernel)
  have hd : declaration? t = some d := by decide +kernel
  have hpair : ((⟨"subgraph".toList, 2, 0⟩, ⟨"end".toList, 6, 0⟩) : Head × Head) ∈
      blockPairs d.kind [] (statements d.scan.tail) := by decide +kernel
  have hstrays : d.strays 2 6 = ["x[\"".toList, "pie".toList, "end\"]".toList] := by
    decide +kernel
  have hbalanced : Balanced Keyword.opensBlockAt Keyword.closesBlockAt 0 (d.strays 2 6) := by
    rw [hstrays, Balanced.cons_iff 0 (by decide), Balanced.cons_iff 1 (by decide),
      Balanced.cons_iff 0 (by decide), Balanced.nil_iff]
  exact ⟨_, hformat, (format_nests hcheck hd (by decide +kernel) (by decide) hformat hpair
    hbalanced).2.1⟩

/-- A node whose name is a diagram kind moves the end of its block. -/
theorem not_forall_format_nests :
    ¬∀ (t s : Text) (d : Declaration) (width : Int) (opened closed : Head), check t = .ok () →
      declaration? t = some d → isFlowchart d.kind = true → 1 ≤ width → format width t = .ok s →
      (opened, closed) ∈ blockPairs d.kind [] (statements d.scan.tail) →
      Text.margin (Text.lineAt s opened.line) = Text.margin (Text.lineAt s closed.line) := by
  intro h
  set t := "graph TD\nsubgraph a\npie --> B\nend".toList
  have hsame := h t (render 4 t)
    ⟨1, "graph TD".toList, ["subgraph a".toList, "pie --> B".toList, "end".toList]⟩ 4
    ⟨"subgraph".toList, 2, 0⟩ ⟨"end".toList, 4, 0⟩ (check_eq_ok (by decide +kernel))
    (by decide +kernel) (by decide +kernel) (by decide) (by decide +kernel) (by decide +kernel)
  exact absurd hsame (by decide +kernel)

end Usual

end Layout

end Mermaid
