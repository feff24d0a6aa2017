import Mermaid.Structure.Statement
import Mermaid.Proofs.Text.Lines

/-!
# The declaration of a diagram

The declaration is the first line outside front matter that is neither blank nor a comment; a line
is outside front matter if an even number of marks stands above it. It depends on the trimmed lines
alone.
-/

namespace Mermaid.Structure

/-- Whether a line opens or closes front matter. -/
def isMark (line : Text) : Bool := Text.trim line = frontMatterMark

/-- Whether a line may declare a diagram below some other lines, the first of which is in front
matter or not. -/
structure MayDeclare (inFrontMatter : Bool) (before : List Text) (line : Text) : Prop where
  outside : (before.countP isMark + inFrontMatter.toNat) % 2 = 0
  mark : isMark line = false
  blank : Text.isBlankText line = false
  comment : ¬['%', '%'] <+: Text.trim line

/-- Whether a declaration is the first of some lines that may declare a diagram; the first line has
the number `number`. -/
def Declares (inFrontMatter : Bool) (number : Nat) (ls : List Text) (d : Declaration) : Prop :=
  ∃ before, ls = before ++ d.line :: d.rest ∧ d.number = number + before.length ∧
    MayDeclare inFrontMatter before d.line ∧
      ∀ us l vs, before = us ++ l :: vs → ¬MayDeclare inFrontMatter us l

/-- A line without characters or with a comment is skipped. -/
lemma isSkippable_trim_iff (line : Text) : isSkippable (Text.trim line) = true ↔
    Text.isBlankText line = true ∨ ['%', '%'] <+: Text.trim line := by
  rw [isSkippable, Bool.or_eq_true, List.isEmpty_iff, Text.trim_eq_nil_iff,
    List.isPrefixOf_iff_prefix]

/-- The first of some lines may declare the diagram if it is neither a mark nor skipped. -/
lemma mayDeclare_nil_iff {inFrontMatter : Bool} {line : Text} :
    MayDeclare inFrontMatter [] line ↔
      isMark line = false ∧ (inFrontMatter || isSkippable (Text.trim line)) = false := by
  rw [Bool.or_eq_false_iff, ← Bool.not_eq_true (isSkippable _), isSkippable_trim_iff, not_or,
    Bool.not_eq_true]
  constructor
  · intro h
    refine ⟨h.mark, ?_, h.blank, h.comment⟩
    have houtside := h.outside
    cases inFrontMatter with
    | false => rfl
    | true => cases houtside
  · intro h
    obtain ⟨hmark, houtside, hblank, hcomment⟩ := h
    exact ⟨by rw [houtside]; rfl, hmark, hblank, hcomment⟩

/-- Below a mark front matter starts or ends. -/
lemma mayDeclare_cons_of_mark {inFrontMatter : Bool} {line : Text} (hmark : isMark line = true)
    (us : List Text) (l : Text) :
    MayDeclare inFrontMatter (line :: us) l ↔ MayDeclare (!inFrontMatter) us l := by
  have hparity : ((line :: us).countP isMark + inFrontMatter.toNat) % 2 = 0 ↔
      (us.countP isMark + (!inFrontMatter).toNat) % 2 = 0 := by
    rw [List.countP_cons_of_pos hmark]
    cases inFrontMatter with
    | true =>
      show (us.countP isMark + 1 + 1) % 2 = 0 ↔ (us.countP isMark + 0) % 2 = 0
      omega
    | false =>
      show (us.countP isMark + 1 + 0) % 2 = 0 ↔ (us.countP isMark + 1) % 2 = 0
      omega
  constructor
  · intro h
    exact ⟨hparity.1 h.outside, h.mark, h.blank, h.comment⟩
  · intro h
    exact ⟨hparity.2 h.outside, h.mark, h.blank, h.comment⟩

/-- Below any other line front matter goes on as before. -/
lemma mayDeclare_cons_of_no_mark {inFrontMatter : Bool} {line : Text} (hmark : isMark line = false)
    (us : List Text) (l : Text) :
    MayDeclare inFrontMatter (line :: us) l ↔ MayDeclare inFrontMatter us l := by
  have hcount : (line :: us).countP isMark = us.countP isMark :=
    List.countP_cons_of_neg (by simp [hmark])
  constructor
  · intro h
    exact ⟨hcount ▸ h.outside, h.mark, h.blank, h.comment⟩
  · intro h
    exact ⟨hcount ▸ h.outside, h.mark, h.blank, h.comment⟩

/-- The declaration stands below a line that may not declare the diagram. -/
lemma declares_cons_iff {inFrontMatter within : Bool} {line : Text}
    (hline : ¬MayDeclare inFrontMatter [] line)
    (hbelow : ∀ us l, MayDeclare inFrontMatter (line :: us) l ↔ MayDeclare within us l)
    (number : Nat) (ls : List Text) (d : Declaration) :
    Declares inFrontMatter number (line :: ls) d ↔ Declares within (number + 1) ls d := by
  constructor
  · intro h
    obtain ⟨before, hls, hnumber, hmay, hfirst⟩ := h
    cases before with
    | nil =>
      obtain ⟨rfl, -⟩ := List.cons.inj hls
      exact absurd hmay hline
    | cons l us =>
      obtain ⟨rfl, rfl⟩ := List.cons.inj hls
      refine ⟨us, rfl, ?_, (hbelow us d.line).1 hmay, ?_⟩
      · rw [hnumber, List.length_cons]
        omega
      · intro vs l ws hsplit hl
        rw [hsplit] at hfirst
        exact hfirst (line :: vs) l ws rfl ((hbelow vs l).2 hl)
  · intro h
    obtain ⟨before, rfl, hnumber, hmay, hfirst⟩ := h
    refine ⟨line :: before, rfl, ?_, (hbelow before d.line).2 hmay, ?_⟩
    · rw [hnumber, List.length_cons]
      omega
    · intro us l vs hsplit hl
      cases us with
      | nil =>
        obtain ⟨rfl, -⟩ := List.cons.inj hsplit
        exact hline hl
      | cons u us =>
        obtain ⟨rfl, hbefore⟩ := List.cons.inj hsplit
        exact hfirst us l vs hbefore ((hbelow us l).1 hl)

/-- A line that may declare the diagram does so, if it is the first line. -/
lemma declares_cons_of_mayDeclare {inFrontMatter : Bool} {line : Text}
    (hmay : MayDeclare inFrontMatter [] line) (number : Nat) (ls : List Text) (d : Declaration) :
    Declares inFrontMatter number (line :: ls) d ↔ ⟨number, line, ls⟩ = d := by
  constructor
  · intro h
    obtain ⟨before, hls, hnumber, -, hfirst⟩ := h
    cases before with
    | nil =>
      obtain ⟨hline, hrest⟩ := List.cons.inj hls
      rw [hline, hrest, ← Nat.add_zero number]
      rw [List.length_nil] at hnumber
      rw [← hnumber]
    | cons l us =>
      obtain ⟨rfl, -⟩ := List.cons.inj hls
      exact absurd hmay (hfirst [] line us rfl)
  · intro h
    rw [← h]
    exact ⟨[], rfl, rfl, hmay, by simp⟩

/-- **The declaration** is the first line that may declare the diagram. -/
theorem declarationFrom?_eq_some_iff (inFrontMatter : Bool) (number : Nat) (ls : List Text)
    (d : Declaration) :
    declarationFrom? inFrontMatter number ls = some d ↔ Declares inFrontMatter number ls d := by
  induction ls generalizing inFrontMatter number with
  | nil =>
    constructor
    · intro h
      cases h
    · intro h
      obtain ⟨before, hls, -⟩ := h
      exact absurd hls.symm (by simp)
  | cons line ls ih =>
    rw [declarationFrom?]
    by_cases hmark : Text.trim line = frontMatterMark
    · have hmark' : isMark line = true := decide_eq_true hmark
      have hnot : ¬MayDeclare inFrontMatter [] line := by
        rw [mayDeclare_nil_iff, hmark']
        simp
      rw [if_pos hmark, ih, declares_cons_iff hnot (mayDeclare_cons_of_mark hmark')]
    have hmark' : isMark line = false := decide_eq_false hmark
    rw [if_neg hmark]
    by_cases hskip : (inFrontMatter || isSkippable (Text.trim line)) = true
    · have hnot : ¬MayDeclare inFrontMatter [] line := by
        rw [mayDeclare_nil_iff, hskip]
        simp
      rw [if_pos hskip, ih, declares_cons_iff hnot (mayDeclare_cons_of_no_mark hmark')]
    · have hmay : MayDeclare inFrontMatter [] line :=
        mayDeclare_nil_iff.2 ⟨hmark', Bool.eq_false_iff.2 hskip⟩
      rw [if_neg hskip, declares_cons_of_mayDeclare hmay, Option.some_inj]

/-! ## Lines in two parts -/

/-- A line is passed over, and may start or end front matter, or it is the declaration. -/
lemma declarationFrom?_cons (inFrontMatter : Bool) (number : Nat) (line : Text) (rest : List Text) :
    declarationFrom? inFrontMatter number (line :: rest) =
      if isMark line || (inFrontMatter || isSkippable (Text.trim line))
        then declarationFrom? (inFrontMatter ^^ isMark line) (number + 1) rest
        else some ⟨number, line, rest⟩ := by
  rw [declarationFrom?, isMark]
  by_cases hmark : Text.trim line = frontMatterMark
  · simp [hmark]
  · simp [hmark]

/-- A declaration stays where it is when lines are added below it. -/
lemma declarationFrom?_append_of_some {inFrontMatter : Bool} {number : Nat} {above : List Text}
    {d : Declaration} (h : declarationFrom? inFrontMatter number above = some d)
    (below : List Text) : declarationFrom? inFrontMatter number (above ++ below) =
      some { d with rest := d.rest ++ below } := by
  induction above generalizing inFrontMatter number with
  | nil => cases h
  | cons line above ih =>
    rw [declarationFrom?_cons] at h
    rw [List.cons_append, declarationFrom?_cons]
    split at h
    · next hpass =>
      rw [if_pos hpass]
      exact ih h
    · next hpass =>
      rw [if_neg hpass]
      cases h
      rfl

/-- Lines without a declaration lead into front matter or not, whatever stands below them. -/
lemma declarationFrom?_append_of_none {inFrontMatter : Bool} {number : Nat} {above : List Text}
    (h : declarationFrom? inFrontMatter number above = none) :
    ∃ within, ∀ below, declarationFrom? inFrontMatter number (above ++ below) =
      declarationFrom? within (number + above.length) below := by
  induction above generalizing inFrontMatter number with
  | nil => exact ⟨inFrontMatter, fun _ => rfl⟩
  | cons line above ih =>
    rw [declarationFrom?_cons] at h
    split at h
    · next hpass =>
      obtain ⟨within, hwithin⟩ := ih h
      refine ⟨within, fun below => ?_⟩
      rw [List.cons_append, declarationFrom?_cons, if_pos hpass, hwithin, List.length_cons,
        Nat.add_assoc, Nat.add_comm 1]
    · cases h

/-- Among lines that start further down a declaration has a number further down. -/
lemma declarationFrom?_succ (inFrontMatter : Bool) (number : Nat) (ls : List Text) :
    declarationFrom? inFrontMatter (number + 1) ls =
      (declarationFrom? inFrontMatter number ls).map
        fun d => { d with number := d.number + 1 } := by
  induction ls generalizing inFrontMatter number with
  | nil => rfl
  | cons line ls ih =>
    rw [declarationFrom?_cons, declarationFrom?_cons]
    split
    · exact ih _ (number + 1)
    · rfl

/-- A line that is skipped is neither a mark nor a declaration. -/
lemma declarationFrom?_of_isSkippable (inFrontMatter : Bool) (number : Nat) {line : Text}
    (hskip : isSkippable (Text.trim line) = true) (below : List Text) :
    declarationFrom? inFrontMatter number (line :: below) =
      declarationFrom? inFrontMatter (number + 1) below := by
  have hmark : isMark line = false := by
    apply decide_eq_false
    intro heq
    rw [heq] at hskip
    exact absurd hskip (by decide)
  rw [declarationFrom?_cons, hmark, hskip, Bool.or_true, Bool.false_or, if_pos rfl, Bool.xor_false]

end Mermaid.Structure
