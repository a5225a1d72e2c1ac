/-!
Finite sets as strictly increasing lists, so that neither the order nor the repetition of the
entries that a set was built from can be seen. What is built from a description holds its sets in
this form; what reports a set puts it into this form again and relies on no order.
-/

set_option autoImplicit false

namespace CodeSmells

variable {α : Type} [LT α] [DecidableLT α] [DecidableEq α]

/-- Inserts an element into an increasing list, unless it is there. -/
def insertSorted (x : α) : List α → List α
  | [] => [x]
  | y :: ys => if x = y then y :: ys else if x < y then x :: y :: ys else y :: insertSorted x ys

/-- The increasing list of the elements of a list. -/
def sortedSet (xs : List α) : List α :=
  xs.foldr insertSorted []

theorem mem_insertSorted {x y : α} {ys : List α} :
    y ∈ insertSorted x ys ↔ y = x ∨ y ∈ ys := by
  induction ys with
  | nil => simp [insertSorted]
  | cons z zs ih =>
    rw [insertSorted]
    split
    · next h => subst h; simp
    · split
      · simp
      · simp only [List.mem_cons, ih]
        exact or_left_comm

/-- A set has the members of the list it was built from. -/
theorem mem_sortedSet {x : α} {xs : List α} : x ∈ sortedSet xs ↔ x ∈ xs := by
  induction xs with
  | nil => simp [sortedSet]
  | cons y ys ih => simpa [sortedSet, mem_insertSorted] using or_congr_right ih

end CodeSmells
