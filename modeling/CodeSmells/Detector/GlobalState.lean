import CodeSmells.Smell.Detector

/-!
Global state: too many autoloads, too many fields in them, or an autoload that does everything.
-/

set_option autoImplicit false

namespace CodeSmells.GlobalState

/-- The measures of an autoload. -/
structure Summary where
  name : String
  fieldCount : Nat
  methodCount : Nat
  totalLoc : Nat
  isGod : Bool
deriving DecidableEq, Inhabited

/-- Measures an autoload. -/
def summary (t : Thresholds) (k : Class) : Except Fault Summary := do
  let isGod ← anyAbove t [(k.totalLoc, "god_autoload_loc"), (k.methodCount, "god_autoload_methods")]
  return ⟨k.name, k.fieldCount, k.methodCount, k.totalLoc, isGod⟩

/-- The measures of all autoloads. -/
structure Findings where
  autoloads : List Summary
deriving DecidableEq, Inhabited

/-- Measures the autoloads of a project. -/
def findings (p : Project) (t : Thresholds) : Except Fault Findings := do
  return ⟨← p.autoloads.mapM (summary t)⟩

namespace Findings

variable (f : Findings)

/-- The number of autoloads. -/
def count : Nat :=
  f.autoloads.length

/-- The number of fields in all autoloads. -/
def globalVars : Nat :=
  total (f.autoloads.map (·.fieldCount))

/-- The names of the autoloads that do everything. -/
def gods : List String :=
  (f.autoloads.filter (·.isGod)).map (·.name)

/-- Whether a count exceeds its limit or one autoload does everything. -/
def detected (t : Thresholds) : Except Fault Bool := do
  if ← anyAbove t [(f.count, "max_autoloads"), (f.globalVars, "max_global_vars")] then return true
  else return !f.gods.isEmpty

/-- How grave the global state is. -/
def severity : Severity :=
  .grade [
    (!f.gods.isEmpty, .critical),
    (f.count > 8 || f.globalVars > 40, .high),
    (f.count > 5 || f.globalVars > 20, .medium)]

/-- The findings as a table. -/
def toValue (t : Thresholds) : Value :=
  .table [
    ("autoload_count", .count f.count),
    ("total_global_vars", .count f.globalVars),
    ("autoloads", .row (f.autoloads.map fun s => .table [
      ("name", .text s.name),
      ("field_count", .count s.fieldCount),
      ("method_count", .count s.methodCount),
      ("total_loc", .count s.totalLoc),
      ("is_god", .flag s.isGod)])),
    ("god_autoloads", .texts f.gods),
    ("thresholds", t.configured)]

end Findings

/-- The detector of global state. -/
def detector : Detector where
  name := "GlobalState"
  description := "Too many autoload singletons, too much global data, or god autoloads"
  scopes := [.perProject]
  defaults := [("max_autoloads", .whole 5), ("max_global_vars", .whole 20),
    ("god_autoload_loc", .whole 400), ("god_autoload_methods", .whole 20)]
  evaluate scope t :=
    match scope with
    | .ofProject p => do
      let f ← findings p t
      return some ⟨← f.detected t, f.severity, scope.location, f.toValue t⟩
    | _ => .ok none

end CodeSmells.GlobalState
