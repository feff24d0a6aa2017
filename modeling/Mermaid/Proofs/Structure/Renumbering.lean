import Mermaid.Proofs.Structure.Brackets
import Mermaid.Proofs.Structure.Statements

/-!
# The structural check with other line numbers

The check only ever asks of two line numbers whether they are the same. So when the lines of a scan
get other numbers, no two of them the same one, the check finds the same problem at the new number
of its line.
-/

namespace Mermaid.Structure

/-- The problem with another number of its line. -/
def Problem.renumbered (f : Nat → Nat) (p : Problem) : Problem :=
  { p with place := p.place.map fun place => { place with line := f place.line } }

/-- The bracket with another number of its line. -/
def OpenBracket.renumbered (f : Nat → Nat) (b : OpenBracket) : OpenBracket :=
  { b with line := f b.line }

/-- The head with another number of its line. -/
def Head.renumbered (f : Nat → Nat) (h : Head) : Head := { h with line := f h.line }

/-- The token with another number of its line. -/
def LocatedToken.renumbered (f : Nat → Nat) (t : LocatedToken) : LocatedToken :=
  { t with line := f t.line }

/-- The line with another number. -/
def ScannedLine.renumbered (f : Nat → Nat) (l : ScannedLine) : ScannedLine :=
  { l with number := f l.number }

/-- What a check comes to with other line numbers, in its result as well as in a problem. -/
def renumber (f : Nat → Nat) {α β : Type} (g : α → β) (x : Except Problem α) : Except Problem β :=
  (x.map g).mapError (Problem.renumbered f)

variable {f : Nat → Nat}

/-! ## Checks one after another -/

section

variable {α α' β β' ι κ : Type} {g : α → α'} {h : β → β'}

lemma renumber_error (p : Problem) : renumber f g (.error p) = .error (p.renumbered f) := rfl

lemma renumber_id (x : Except Problem α) :
    renumber f id x = x.mapError (Problem.renumbered f) := by
  cases x <;> rfl

/-- One check after another comes to the same with other line numbers, if both do. -/
lemma renumber_bind (x : Except Problem α) {k : α → Except Problem β}
    {k' : α' → Except Problem β'} (hk : ∀ a, k' (g a) = renumber f h (k a)) :
    renumber f g x >>= k' = renumber f h (x >>= k) := by
  cases x with
  | error p => rfl
  | ok a => exact hk a

/-- Checks of items in turn come to the same with other line numbers, if each does. -/
lemma renumber_foldlM {m : ι → κ} {step : α → ι → Except Problem α}
    {step' : α' → κ → Except Problem α'}
    (hstep : ∀ a x, step' (g a) (m x) = renumber f g (step a x)) (xs : List ι) (a : α) :
    (xs.map m).foldlM step' (g a) = renumber f g (xs.foldlM step a) := by
  induction xs generalizing a with
  | nil => rfl
  | cons x xs ih =>
    rw [List.map_cons, List.foldlM_cons, List.foldlM_cons, hstep]
    exact renumber_bind (step a x) ih

/-- The same for a check of what the last item leads to. -/
lemma renumber_foldlM_bind {m : ι → κ} {step : α → ι → Except Problem α}
    {step' : α' → κ → Except Problem α'} {k : α → Except Problem β} {k' : α' → Except Problem β'}
    (hstep : ∀ a x, step' (g a) (m x) = renumber f g (step a x))
    (hk : ∀ a, k' (g a) = renumber f h (k a)) (xs : List ι) (a : α) :
    (xs.map m).foldlM step' (g a) >>= k' = renumber f h (xs.foldlM step a >>= k) := by
  rw [renumber_foldlM hstep]
  exact renumber_bind (xs.foldlM step a) hk

end

/-! ## Brackets and blocks -/

lemma bracketsAfter_renumbered (previous : Option Token) (s : Statement) :
    bracketsAfter previous (s.map (LocatedToken.renumbered f)) =
      (bracketsAfter previous s).map (OpenBracket.renumbered f) := by
  induction s generalizing previous with
  | nil => rfl
  | cons t s ih =>
    have hbracket : bracketAt? previous (t.renumbered f) =
        (bracketAt? previous t).map (OpenBracket.renumbered f) := by
      rw [bracketAt?, bracketAt?]
      show (bracketOf? t.token).bind _ = _
      cases bracketOf? t.token with
      | none => rfl
      | some c =>
        simp only [Option.bind_some]
        split <;> rfl
    rw [List.map_cons, bracketsAfter, bracketsAfter, List.map_append, hbracket]
    show _ ++ bracketsAfter (some t.token) _ = _
    rw [ih]
    cases bracketAt? previous t <;> rfl

lemma nestStep_renumbered (stack : List OpenBracket) (b : OpenBracket) :
    nestStep (stack.map (OpenBracket.renumbered f)) (b.renumbered f) =
      renumber f (List.map (OpenBracket.renumbered f)) (nestStep stack b) := by
  have hbracket : (b.renumbered f).bracket = b.bracket := rfl
  rw [nestStep.eq_def, nestStep.eq_def, hbracket]
  split
  · rfl
  · cases stack with
    | nil => rfl
    | cons top rest =>
      show (if closes b.bracket top.bracket then _ else _) = _
      dsimp only
      split <;> rfl

lemma nestEnd_renumbered (stack : List OpenBracket) :
    nestEnd (stack.map (OpenBracket.renumbered f)) = renumber f id (nestEnd stack) := by
  cases stack <;> rfl

/-- The brackets of a statement are checked alike with other line numbers. -/
lemma checkBrackets_renumbered (s : Statement) :
    checkBrackets (s.map (LocatedToken.renumbered f)) = renumber f id (checkBrackets s) := by
  rw [checkBrackets, checkBrackets, checkBracketsFrom_eq, checkBracketsFrom_eq,
    bracketsAfter_renumbered]
  exact renumber_foldlM_bind nestStep_renumbered nestEnd_renumbered (bracketsAfter none s) []

/-- The head of a statement is the same with other line numbers, if the lines stay apart. -/
lemma head?_renumbered (hf : f.Injective) (s : Statement) :
    head? (s.map (LocatedToken.renumbered f)) = (head? s).map (Head.renumbered f) := by
  cases s with
  | nil => rfl
  | cons first rest =>
    -- the head is a word of the first line, whose tokens are found by its number
    have htokens : (((first :: rest).map (LocatedToken.renumbered f)).filter
          fun t => t.line = f first.line).map LocatedToken.token =
        ((first :: rest).filter fun t => t.line = first.line).map LocatedToken.token := by
      rw [List.filter_map, List.map_map]
      have hline : ((fun t : LocatedToken => decide (t.line = f first.line)) ∘
          LocatedToken.renumbered f) = fun t => decide (t.line = first.line) := by
        ext t
        show decide (f t.line = f first.line) = _
        rw [decide_eq_decide]
        exact hf.eq_iff
      rw [hline]
      rfl
    show (firstWord? _).map _ = _
    rw [head?, ← htokens, Option.map_map]
    rfl

lemma blockStep_renumbered (hf : f.Injective) (kind : Text) (blocks : List Head)
    (s : Statement) :
    blockStep kind (blocks.map (Head.renumbered f)) (s.map (LocatedToken.renumbered f)) =
      renumber f (List.map (Head.renumbered f)) (blockStep kind blocks s) := by
  rw [blockStep.eq_def, blockStep.eq_def, head?_renumbered hf]
  cases head? s with
  | none => rfl
  | some head =>
    have hword : (head.renumbered f).word = head.word := rfl
    simp only [Option.map_some, hword]
    split
    · rfl
    · split
      · cases blocks <;> rfl
      · rfl

lemma statementStep_renumbered (hf : f.Injective) (kind : Text) (blocks : List Head)
    (s : Statement) :
    statementStep kind (blocks.map (Head.renumbered f)) (s.map (LocatedToken.renumbered f)) =
      renumber f (List.map (Head.renumbered f)) (statementStep kind blocks s) := by
  unfold statementStep
  cases isFlowchart kind with
  | false => exact blockStep_renumbered hf kind blocks s
  | true =>
    show checkBrackets (s.map (LocatedToken.renumbered f)) >>= _ = _
    rw [checkBrackets_renumbered]
    exact renumber_bind _ fun _ => blockStep_renumbered hf kind blocks s

/-! ## Statements and open strings -/

lemma groups_renumbered (ls : List ScannedLine) :
    groups (ls.map (ScannedLine.renumbered f)) =
      (groups ls).map (List.map (ScannedLine.renumbered f)) := by
  induction ls with
  | nil => rfl
  | cons l ls ih =>
    rw [List.map_cons, groups, groups, ih]
    show (if l.mode = .string then _ else _) = _
    split
    · cases groups ls <;> rfl
    · rfl

lemma statementOf_renumbered (g : List ScannedLine) :
    statementOf (g.map (ScannedLine.renumbered f)) =
      (statementOf g).map (LocatedToken.renumbered f) := by
  rw [statementOf, statementOf, List.flatMap_map, List.map_flatMap]
  congr 1
  ext1 l
  rw [ScannedLine.located, ScannedLine.located, List.map_map]
  rfl

lemma finalMode_renumbered (ls : List ScannedLine) :
    finalMode (ls.map (ScannedLine.renumbered f)) = finalMode ls := by
  rw [finalMode, finalMode, List.getLast?_map, Option.map_map]
  rfl

lemma openQuote?_renumbered (ls : List ScannedLine) :
    openQuote? (ls.map (ScannedLine.renumbered f)) =
      (openQuote? ls).map fun q => (q.1.renumbered f, q.2) := by
  have hopening : ∀ l : ScannedLine, (l.renumbered f).openingQuote? =
      l.openingQuote?.map fun q => (q.1.renumbered f, q.2) := by
    intro l
    show (if l.mode = .string then _ else _) = _
    rw [ScannedLine.openingQuote?]
    split
    · rw [Option.map_map]
      rfl
    · rfl
  rw [openQuote?, openQuote?, ← List.getLast?_map, List.map_filterMap, List.filterMap_map]
  congr 2
  ext1 l
  exact hopening l

lemma checkEnd_renumbered (ls : List ScannedLine) (blocks : List Head) :
    checkEnd (ls.map (ScannedLine.renumbered f)) (blocks.map (Head.renumbered f)) =
      renumber f id (checkEnd ls blocks) := by
  unfold checkEnd
  rw [finalMode_renumbered, openQuote?_renumbered]
  split
  · rw [renumber_error, Problem.renumbered, Option.map_map, Option.map_map]
    rfl
  · cases blocks <;> rfl

/-! ## The whole check -/

/-- **Other line numbers.** A scan whose lines have other numbers is objected to in the same way, at
the new number of the line. -/
theorem checkLines_renumbered (hf : f.Injective) (ls : List ScannedLine) :
    checkLines (ls.map (ScannedLine.renumbered f)) =
      (checkLines ls).mapError (Problem.renumbered f) := by
  rw [← renumber_id]
  cases ls with
  | nil => rfl
  | cons first rest =>
    rw [List.map_cons, checkLines, checkLines]
    show (if !Keyword.isDiagramKind (declaredWord first.tokens first.text) then _ else _) = _
    dsimp only
    cases Keyword.isDiagramKind (declaredWord first.tokens first.text) with
    | false => rfl
    | true =>
      simp only [Bool.not_true, Bool.false_eq_true, if_false, foldlM_statements]
      have hstatements : (groups (rest.map (ScannedLine.renumbered f))).map statementOf =
          ((groups rest).map statementOf).map (List.map (LocatedToken.renumbered f)) := by
        rw [groups_renumbered, List.map_map, List.map_map]
        congr 1
        ext1 g
        exact statementOf_renumbered g
      rw [hstatements]
      exact renumber_foldlM_bind (statementStep_renumbered hf _)
        (checkEnd_renumbered (first :: rest)) ((groups rest).map statementOf) []

end Mermaid.Structure
