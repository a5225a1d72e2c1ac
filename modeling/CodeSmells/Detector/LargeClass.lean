import CodeSmells.Metric.Cohesion
import CodeSmells.Metric.Coupling
import CodeSmells.Smell.Detector

/-!
Large classes: too many fields, methods, lines or exported fields.
-/

set_option autoImplicit false

namespace CodeSmells.LargeClass

/-- The measures of a class. -/
structure Findings where
  fieldCount : Nat
  methodCount : Nat
  totalLoc : Nat
  exportCount : Nat
  coupling : Nat
  lackOfCohesion : Nat
deriving DecidableEq, Inhabited

/-- Measures a class of a project. -/
def findings (k : Class) (p : Project) : Findings where
  fieldCount := k.fieldCount
  methodCount := k.methodCount
  totalLoc := k.totalLoc
  exportCount := k.exportedFields.length
  coupling := k.coupling p.classes
  lackOfCohesion := k.lackOfCohesion

namespace Findings

variable (f : Findings)

/-- Whether a measure exceeds its limit. -/
def detected (t : Thresholds) : Except Fault Bool :=
  anyAbove t [(f.fieldCount, "max_fields"), (f.methodCount, "max_methods"),
    (f.totalLoc, "max_loc"), (f.exportCount, "max_exports")]

/-- How grave the measures are. -/
def severity : Severity :=
  .grade [
    (f.totalLoc > 1000 || f.methodCount > 50, .critical),
    (f.totalLoc > 600 || f.methodCount > 30, .high),
    (f.totalLoc > 400 || f.methodCount > 20, .medium)]

/-- The measures as a table. -/
def toValue (t : Thresholds) : Value :=
  .table [
    ("field_count", .count f.fieldCount),
    ("method_count", .count f.methodCount),
    ("total_loc", .count f.totalLoc),
    ("export_count", .count f.exportCount),
    ("coupling", .count f.coupling),
    ("lack_of_cohesion", .count f.lackOfCohesion),
    ("thresholds", t.configured)]

end Findings

/-- The detector of large classes. -/
def detector : Detector where
  name := "LargeClass"
  description := "Class has too many fields, methods or lines of code (god object)"
  scopes := [.perClass]
  defaults := [("max_fields", .whole 15), ("max_methods", .whole 20), ("max_loc", .whole 400),
    ("max_exports", .whole 10)]
  evaluate scope t :=
    match scope with
    | .ofClass k p _ => do
      let f := findings k p
      return some ⟨← f.detected t, f.severity, scope.location, f.toValue t⟩
    | _ => .ok none

end CodeSmells.LargeClass
