/-!
Membership in a table of code points, given as closed ranges or as runs with a step.
-/

set_option autoImplicit false

namespace CodeSmells.Text

/-- Whether a code point lies in one of the closed ranges. -/
def inRanges (ranges : Array (Nat × Nat)) (n : Nat) : Bool :=
  ranges.any fun (lo, hi) => lo ≤ n && n ≤ hi

/-- Whether a code point is a member of one of the runs `(first, last, step)`. -/
def inRuns (runs : Array (Nat × Nat × Nat)) (n : Nat) : Bool :=
  runs.any fun (lo, hi, step) => lo ≤ n && n ≤ hi && (n - lo) % step == 0

end CodeSmells.Text
