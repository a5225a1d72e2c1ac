import CodeSmells.Metric.Lines
import CodeSmells.Smell.Detector

/-!
Long methods: too many lines, too many decisions or too many suspensions.
-/

set_option autoImplicit false

namespace CodeSmells.LongMethod

/-- The measures of a method. -/
structure Findings where
  linesOfCode : Nat
  complexity : Nat
  suspensions : Nat
deriving DecidableEq, Inhabited

/-- Measures a method. -/
def findings (m : Method) : Findings :=
  ⟨m.loc, cyclomaticComplexity m.lines, suspensionCount m.lines⟩

namespace Findings

variable (f : Findings)

/-- Whether a measure exceeds its limit. -/
def detected (t : Thresholds) : Except Fault Bool :=
  anyAbove t [(f.linesOfCode, "max_lines"), (f.complexity, "max_complexity"),
    (f.suspensions, "max_yields")]

/-- How grave the measures are. -/
def severity : Severity :=
  .grade [
    (f.linesOfCode > 200 || f.complexity > 30, .critical),
    (f.linesOfCode > 100 || f.complexity > 20, .high),
    (f.linesOfCode > 50 || f.complexity > 10, .medium)]

/-- The measures as a table. -/
def toValue (t : Thresholds) : Value :=
  .table [
    ("lines_of_code", .count f.linesOfCode),
    ("cyclomatic_complexity", .count f.complexity),
    ("yield_count", .count f.suspensions),
    ("thresholds", t.configured)]

end Findings

/-- The detector of long methods. -/
def detector : Detector where
  name := "LongMethod"
  description := "Method contains too many lines of code or has high cyclomatic complexity"
  scopes := [.perMethod]
  defaults := [("max_lines", .whole 50), ("max_complexity", .whole 10), ("max_yields", .whole 7)]
  evaluate scope t :=
    match scope with
    | .ofMethod m .. => do
      let f := findings m
      return some ⟨← f.detected t, f.severity, scope.location, f.toValue t⟩
    | _ => .ok none

end CodeSmells.LongMethod
