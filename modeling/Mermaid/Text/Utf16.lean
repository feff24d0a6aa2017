import Mermaid.Text.Basic

/-!
# Lengths in UTF-16

A character outside the basic plane takes two UTF-16 code units, any other takes one.
-/

namespace Mermaid.Text

/-- The UTF-16 code units of a character. -/
def unitsOfChar (c : Char) : Nat := if c.toNat < 0x10000 then 1 else 2

/-- The length of a text in UTF-16 code units. -/
def units : Text → Nat
  | [] => 0
  | c :: cs => unitsOfChar c + units cs

@[simp] theorem units_nil : units [] = 0 := rfl

@[simp] theorem units_cons (c : Char) (cs : Text) :
    units (c :: cs) = unitsOfChar c + units cs := rfl

@[simp] theorem units_append (s t : Text) : units (s ++ t) = units s + units t := by
  induction s with
  | nil => simp
  | cons c cs ih => simp [ih, Nat.add_assoc]

end Mermaid.Text
