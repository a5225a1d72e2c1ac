/-!
Grouping by a key. Groups stand in the order in which their keys first occur, and the members of a
group keep their order. Also the pairs and triples of a list in the order of their positions, and the
total and the greatest of some counts.
-/

set_option autoImplicit false

namespace CodeSmells

variable {α κ : Type}

/-- Adds a member to the group of a key, which is opened at the end when it is new. -/
def addToGroup [BEq κ] (key : κ) (a : α) : List (κ × List α) → List (κ × List α)
  | [] => [(key, [a])]
  | (k, members) :: rest =>
    if k == key then (k, members ++ [a]) :: rest else (k, members) :: addToGroup key a rest

/-- The groups of a list under a key. -/
def groupBy [BEq κ] (key : α → κ) (xs : List α) : List (κ × List α) :=
  xs.foldl (fun groups a => addToGroup (key a) a groups) []

/-- Every pair of entries at increasing positions. -/
def pairs : List α → List (α × α)
  | [] => []
  | x :: xs => xs.map (x, ·) ++ pairs xs

/-- Every triple of entries at increasing positions. -/
def triples : List α → List (α × α × α)
  | [] => []
  | x :: xs => (pairs xs).map (x, ·) ++ triples xs

/-- The total of some counts. -/
def total (ns : List Nat) : Nat :=
  ns.foldr (· + ·) 0

theorem total_cons (n : Nat) (ns : List Nat) : total (n :: ns) = n + total ns := rfl

/-- The greatest of some counts; nought when there are none. -/
def greatest (ns : List Nat) : Nat :=
  ns.foldl max 0

end CodeSmells
