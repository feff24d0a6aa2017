/-!
# Things kept by name

A table holds at most one thing for each name: a new thing takes the place of the one that was there
before. What counts is `get?`, and one lemma per operation says what it does to it.
-/

namespace Mermaid

/-- Things kept by name. Each name stands once. -/
structure ByName (α : Type) where
  entries : List (String × α) := []

namespace ByName

variable {α : Type}

/-- The thing with a name. -/
def get? (t : ByName α) (name : String) : Option α :=
  (t.entries.find? fun e => e.1 = name).map Prod.snd

/-- Takes a name away. -/
def erase (t : ByName α) (name : String) : ByName α := ⟨t.entries.filter fun e => e.1 ≠ name⟩

/-- Keeps a thing under a name. -/
def insert (t : ByName α) (name : String) (a : α) : ByName α :=
  ⟨(name, a) :: (t.erase name).entries⟩

/-- The things kept. -/
def values (t : ByName α) : List α := t.entries.map Prod.snd

@[simp] theorem get?_empty (name : String) : (⟨[]⟩ : ByName α).get? name = none := rfl

theorem get?_erase (t : ByName α) (name other : String) :
    (t.erase name).get? other = if other = name then none else t.get? other := by
  obtain ⟨es⟩ := t
  simp only [get?, erase]
  induction es with
  | nil => simp
  | cons e es ih => grind

theorem get?_insert (t : ByName α) (name other : String) (a : α) :
    (t.insert name a).get? other = if other = name then some a else t.get? other := by
  by_cases h : other = name
  · simp [get?, insert, h]
  · have he := get?_erase t name other
    simp only [h, if_false] at he
    simp only [h, if_false, ← he]
    simp only [get?, insert]
    rw [List.find?_cons_of_neg (by simpa using fun hn => h hn.symm)]

end ByName

end Mermaid
