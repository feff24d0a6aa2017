import Mermaid.Structure.Bracket
import Mathlib.Tactic.Common
import Mathlib.Data.List.Basic

/-!
# The words that brackets form

The bracket check reads a statement for its brackets alone: what opens or closes a node shape, and
where. It accepts exactly the statements whose brackets form a word of the grammar `Nested`.
-/

namespace Mermaid.Structure

/-! ## The brackets of a statement -/

/-- The bracket that a token is after another one. An arrow head is one directly after a word. -/
def bracketAt? (previous : Option Token) (t : LocatedToken) : Option OpenBracket :=
  (bracketOf? t.token).bind fun c =>
    if opensAfter previous c || (partner? c).isSome then some ⟨c, t.line, t.token.start⟩ else none

/-- The brackets of a statement that goes on after a token. -/
def bracketsAfter (previous : Option Token) : Statement → List OpenBracket
  | [] => []
  | t :: rest => (bracketAt? previous t).toList ++ bracketsAfter (some t.token) rest

/-- The open brackets, innermost first, after one more bracket. -/
def nestStep (stack : List OpenBracket) (b : OpenBracket) : Except Problem (List OpenBracket) :=
  if (partner? b.bracket).isNone then .ok (b :: stack)
  else match stack with
    | top :: rest =>
      if closes b.bracket top.bracket then .ok rest
      else .error (.at (.unmatched b.bracket) b.line b.column 1)
    | [] => .error (.at (.unmatched b.bracket) b.line b.column 1)

/-- What the open brackets at the end of a statement come to. -/
def nestEnd : List OpenBracket → Except Problem Unit
  | [] => .ok ()
  | top :: _ => .error (.at (.unclosed top.bracket) top.line top.column 1)

/-- A bracket that opens something closes nothing. -/
lemma partner?_of_opensAfter {previous : Option Token} {c : Char}
    (h : opensAfter previous c = true) : partner? c = none := by
  unfold partner?
  split
  · simp [opensAfter] at h
  · simp [opensAfter] at h
  · simp [opensAfter] at h
  · rfl

/-- A delimiter that is a bracket is nested. -/
lemma bracketStep_of_bracket {previous : Option Token} {c : Char}
    (h : (opensAfter previous c || (partner? c).isSome) = true) (stack : List OpenBracket)
    (line column : Nat) :
    bracketStep stack previous line column c = nestStep stack ⟨c, line, column⟩ := by
  unfold bracketStep nestStep
  cases hopens : opensAfter previous c with
  | true => simp [partner?_of_opensAfter hopens]
  | false =>
    rw [hopens, Bool.false_or] at h
    obtain ⟨opened, hpartner⟩ := Option.isSome_iff_exists.1 h
    cases stack with
    | nil => simp only [hpartner, Option.isNone_some, Bool.false_eq_true, if_false]
    | cons top rest => simp only [hpartner, Option.isNone_some, Bool.false_eq_true, if_false]

/-- A delimiter that is no bracket is passed over. -/
lemma bracketStep_of_no_bracket {previous : Option Token} {c : Char}
    (h : (opensAfter previous c || (partner? c).isSome) = false) (stack : List OpenBracket)
    (line column : Nat) : bracketStep stack previous line column c = .ok stack := by
  rw [Bool.or_eq_false_iff, Option.isSome_eq_false_iff] at h
  unfold bracketStep
  rw [h.1, if_neg (by simp), if_pos h.2]

/-- The bracket check reads the brackets of a statement, and nothing else. -/
lemma checkBracketsFrom_eq (stack : List OpenBracket) (previous : Option Token) (s : Statement) :
    checkBracketsFrom stack previous s =
      (bracketsAfter previous s).foldlM nestStep stack >>= nestEnd := by
  induction s generalizing stack previous with
  | nil => cases stack <;> rfl
  | cons t rest ih =>
    obtain ⟨line, t⟩ := t
    rw [checkBracketsFrom, bracketsAfter, bracketAt?]
    cases hc : bracketOf? t with
    | none => exact ih stack (some t)
    | some c =>
      simp only [Option.bind_some]
      cases hbracket : opensAfter previous c || (partner? c).isSome with
      | false =>
        rw [bracketStep_of_no_bracket hbracket]
        exact ih stack (some t)
      | true =>
        rw [bracketStep_of_bracket hbracket, if_pos rfl, Option.toList_some, List.singleton_append,
          List.foldlM_cons]
        cases nestStep stack ⟨c, line, t.start⟩ with
        | error p => rfl
        | ok stack' => exact ih stack' (some t)

/-- The characters of the brackets of a statement. -/
def bracketWord (s : Statement) : List Char := (bracketsAfter none s).map OpenBracket.bracket

/-! ## Words of brackets -/

/-- Whether a word of brackets is nested properly; `>` opens what `]` closes. -/
inductive Nested : List Char → Prop
  | empty : Nested []
  | append {u v : List Char} (hu : Nested u) (hv : Nested v) : Nested (u ++ v)
  | round {u : List Char} (hu : Nested u) : Nested ('(' :: u ++ [')'])
  | square {u : List Char} (hu : Nested u) : Nested ('[' :: u ++ [']'])
  | curly {u : List Char} (hu : Nested u) : Nested ('\x7b' :: u ++ ['\x7d'])
  | flag {u : List Char} (hu : Nested u) : Nested ('>' :: u ++ [']'])

/-- The pairs of a bracket and one that closes it. -/
lemma closes_iff {close opened : Char} : closes close opened = true ↔
    close = ')' ∧ opened = '(' ∨ close = ']' ∧ opened = '[' ∨
      close = '\x7d' ∧ opened = '\x7b' ∨ close = ']' ∧ opened = '>' := by
  unfold closes partner?
  split <;> simp_all [eq_comm (b := opened)]

/-- A nested word may stand between a bracket and one that closes it. -/
lemma Nested.enclosed {u : List Char} (hu : Nested u) {opened close : Char}
    (h : closes close opened = true) : Nested (opened :: u ++ [close]) := by
  rcases closes_iff.1 h with ⟨rfl, rfl⟩ | ⟨rfl, rfl⟩ | ⟨rfl, rfl⟩ | ⟨rfl, rfl⟩
  · exact .round hu
  · exact .square hu
  · exact .curly hu
  · exact .flag hu

lemma nestStep_of_opening {b : OpenBracket} (h : partner? b.bracket = none)
    (stack : List OpenBracket) : nestStep stack b = .ok (b :: stack) := by
  rw [nestStep.eq_def, h, Option.isNone_none, if_pos rfl]

lemma nestStep_of_closes {b top : OpenBracket} (h : closes b.bracket top.bracket = true)
    (stack : List OpenBracket) : nestStep (top :: stack) b = .ok stack := by
  have hpartner : (partner? b.bracket).isNone = false := by
    rcases closes_iff.1 h with ⟨hb, -⟩ | ⟨hb, -⟩ | ⟨hb, -⟩ | ⟨hb, -⟩ <;> rw [hb] <;> rfl
  simp only [nestStep, hpartner, h, Bool.false_eq_true, if_false, if_true]

/-- A word between a bracket and one that closes it leaves the open brackets as they are, if the
word alone does. -/
lemma foldlM_of_enclosed {u : List Char} {opened close : Char} (h : closes close opened = true)
    (hu : ∀ stack bs : List OpenBracket, bs.map OpenBracket.bracket = u →
      bs.foldlM nestStep stack = .ok stack)
    (stack bs : List OpenBracket) (hbs : bs.map OpenBracket.bracket = opened :: u ++ [close]) :
    bs.foldlM nestStep stack = .ok stack := by
  obtain ⟨front, back, rfl, hfront, hback⟩ := List.map_eq_append_iff.1 hbs
  obtain ⟨b, inner, rfl, hb, hinner⟩ := List.map_eq_cons_iff.1 hfront
  obtain ⟨b', rest, rfl, hb', hrest⟩ := List.map_eq_cons_iff.1 hback
  rw [List.map_eq_nil_iff.1 hrest]
  have hopens : partner? b.bracket = none := by
    rw [hb]
    rcases closes_iff.1 h with ⟨-, rfl⟩ | ⟨-, rfl⟩ | ⟨-, rfl⟩ | ⟨-, rfl⟩ <;> rfl
  have hcloses : closes b'.bracket b.bracket = true := by rw [hb, hb', h]
  -- the bracket in front is the innermost one again when the word behind it is over
  rw [List.foldlM_append, List.foldlM_cons, nestStep_of_opening hopens]
  show (inner.foldlM nestStep (b :: stack) >>= fun s => [b'].foldlM nestStep s) = .ok stack
  rw [hu (b :: stack) inner hinner]
  show (nestStep (b :: stack) b' >>= fun s => .ok s) = .ok stack
  rw [nestStep_of_closes hcloses]
  rfl

/-- A nested word leaves the open brackets as they are. -/
lemma foldlM_of_nested {w : List Char} (hw : Nested w) :
    ∀ stack bs : List OpenBracket, bs.map OpenBracket.bracket = w →
      bs.foldlM nestStep stack = .ok stack := by
  induction hw with
  | empty =>
    intro stack bs hbs
    rw [List.map_eq_nil_iff.1 hbs]
    rfl
  | append _ _ ihu ihv =>
    intro stack bs hbs
    obtain ⟨front, back, rfl, hfront, hback⟩ := List.map_eq_append_iff.1 hbs
    rw [List.foldlM_append, ihu stack front hfront]
    exact ihv stack back hback
  | round _ ih => exact foldlM_of_enclosed rfl ih
  | square _ ih => exact foldlM_of_enclosed rfl ih
  | curly _ ih => exact foldlM_of_enclosed rfl ih
  | flag _ ih => exact foldlM_of_enclosed rfl ih

/-- Whether a word closes some open brackets, innermost first. -/
inductive Unwinds : List Char → List Char → Prop
  | done {u : List Char} (hu : Nested u) : Unwinds [] u
  | close {u w stack : List Char} {c top : Char} (hu : Nested u) (hc : closes c top = true)
    (hw : Unwinds stack w) : Unwinds (top :: stack) (u ++ c :: w)

/-- A nested word may stand in front of a word that closes some brackets. -/
lemma Unwinds.append {u w stack : List Char} (hu : Nested u) (hw : Unwinds stack w) :
    Unwinds stack (u ++ w) := by
  cases hw with
  | done hv => exact .done (.append hu hv)
  | close hv hc hw =>
    rw [← List.append_assoc]
    exact .close (.append hu hv) hc hw

/-- Brackets after which none is left open close all that were open before. -/
lemma unwinds_of_foldlM {stack bs : List OpenBracket} (h : bs.foldlM nestStep stack = .ok []) :
    Unwinds (stack.map OpenBracket.bracket) (bs.map OpenBracket.bracket) := by
  induction bs generalizing stack with
  | nil =>
    cases h
    exact .done .empty
  | cons b bs ih =>
    rw [List.foldlM_cons] at h
    cases hb : partner? b.bracket with
    | none =>
      rw [nestStep_of_opening hb] at h
      have hw := ih h
      rw [List.map_cons] at hw ⊢
      generalize bs.map OpenBracket.bracket = word at hw ⊢
      -- what closes the new bracket encloses a nested word with it
      cases hw with
      | close hu hc hw =>
        have henclosed := Unwinds.append (hu.enclosed hc) hw
        rw [List.append_assoc] at henclosed
        exact henclosed
    | some _ =>
      simp only [nestStep, hb, Option.isNone_some, Bool.false_eq_true, if_false] at h
      cases stack with
      | nil => cases h
      | cons top rest =>
        by_cases hc : closes b.bracket top.bracket = true
        · simp only [hc, if_true] at h
          exact .close .empty hc (ih h)
        · simp only [hc, Bool.false_eq_true, if_false] at h
          cases h

/-- **Brackets.** The check accepts the brackets of a statement if and only if they form a nested
word. -/
theorem checkBrackets_eq_ok_iff (s : Statement) :
    checkBrackets s = .ok () ↔ Nested (bracketWord s) := by
  rw [checkBrackets, checkBracketsFrom_eq]
  constructor
  · intro h
    cases hfold : (bracketsAfter none s).foldlM nestStep [] with
    | error p =>
      rw [hfold] at h
      cases h
    | ok stack =>
      rw [hfold] at h
      cases stack with
      | cons top rest => cases h
      | nil =>
        -- no bracket was open before, so the word closes none but its own
        have hw := unwinds_of_foldlM hfold
        cases hw with
        | done hu => exact hu
  · intro h
    rw [foldlM_of_nested h [] _ rfl]
    rfl

end Mermaid.Structure
