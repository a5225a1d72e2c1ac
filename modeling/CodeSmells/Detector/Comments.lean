import CodeSmells.Metric.Lines
import CodeSmells.Smell.Detector

/-!
Comments in excess: code that needs more words than it has lines.
-/

set_option autoImplicit false

namespace CodeSmells.Comments

/-- The comment statistics of a scope; a project has none. -/
def statsOf? : Scope → Option CommentStats
  | .ofMethod m .. => some (commentStats m.lines)
  | .ofClass k .. => some k.commentStats
  | .ofProject _ => none

/-- Whether comments are dense in a body that is long enough. -/
def detected (s : CommentStats) (t : Thresholds) : Except Fault Bool := do
  if ← Measured.above s.density (← t.get "max_comment_density") then
    Measured.above s.totalLines (← t.get "min_non_blank_lines")
  else return false

/-- How grave the density is. -/
def severity (s : CommentStats) : Severity :=
  .grade [(Quantity.lt (.ratio 7 10) s.density, .medium)]

/-- The statistics as a table. -/
def toValue (s : CommentStats) (t : Thresholds) : Value :=
  .table [
    ("comment_lines", .count s.commentLines),
    ("code_lines", .count s.codeLines),
    ("total_lines", .count s.totalLines),
    ("comment_density", .real (s.density.roundPlaces 4)),
    ("comment_ratio", .real (s.ratio.roundPlaces 4)),
    ("thresholds", t.configured)]

/-- The detector of comments in excess. -/
def detector : Detector where
  name := "Comments"
  description := "Comments used as deodorant for code that should explain itself"
  scopes := [.perMethod, .perClass]
  defaults := [("max_comment_density", .real (.ratio 1 2)), ("min_non_blank_lines", .whole 10)]
  ratioKeys := ["max_comment_density"]
  evaluate scope t :=
    match statsOf? scope with
    | some s => do
      return some ⟨← detected s t, severity s, scope.location, toValue s t⟩
    | none => .ok none

end CodeSmells.Comments
