import CodeSmells.Number.Binary
import CodeSmells.Text.Blank

/-!
How alike two blocks of lines are: the number of distinct trimmed lines they share, per line of the
longer block. Two empty blocks are alike, and an empty block shares nothing with another one.
-/

set_option autoImplicit false

namespace CodeSmells

/-- The number of distinct trimmed lines that two blocks share. -/
def sharedLines (first second : List String) : Nat :=
  let others := second.map Text.trimmed
  ((first.map Text.trimmed).eraseDups.filter fun l => others.contains l).length

/-- The exact similarity of two blocks. -/
def similarity : List String → List String → Rat
  | [], [] => 1
  | [], _ :: _ => 0
  | _ :: _, [] => 0
  | a :: first, b :: second =>
    quotient (sharedLines (a :: first) (b :: second)) (max first.length second.length + 1)

/-- The similarity of two blocks as a binary fraction. -/
def blockSimilarity (first second : List String) : Quantity :=
  Quantity.ofRat (similarity first second)

end CodeSmells
