/-!
Values under names, in the order in which the names were first used.
-/

set_option autoImplicit false

namespace CodeSmells

/-- Names with a value each. -/
abbrev Keyed (α : Type) := List (String × α)

namespace Keyed

variable {α : Type}

/-- The value under a name. -/
def get? (name : String) (es : Keyed α) : Option α :=
  (es.find? fun e => e.1 == name).map (·.2)

/-- Puts a value under a name: in place when the name is there, else at the end. -/
def put (name : String) (a : α) : Keyed α → Keyed α
  | [] => [(name, a)]
  | (n, b) :: rest => if n == name then (n, a) :: rest else (n, b) :: put name a rest

/-- The value under a name is the one that was put there last. -/
theorem get?_put_self (name : String) (a : α) (es : Keyed α) :
    (es.put name a).get? name = some a := by
  induction es with
  | nil => simp [put, get?]
  | cons e es ih =>
    rw [put]
    split
    · next h => simp [get?, h]
    · next h => simpa [get?, h] using ih

/-- Putting a value under a name leaves the values under other names alone. -/
theorem get?_put_of_ne {name other : String} (h : other ≠ name) (a : α) (es : Keyed α) :
    (es.put name a).get? other = es.get? other := by
  induction es with
  | nil => simp [put, get?, h.symm]
  | cons e es ih =>
    rw [put]
    split
    · next he =>
      have : e.1 = name := by simpa using he
      simp [get?, this, h.symm]
    · by_cases ho : e.1 = other
      · simp [get?, ho]
      · simpa [get?, ho] using ih

end Keyed

end CodeSmells
