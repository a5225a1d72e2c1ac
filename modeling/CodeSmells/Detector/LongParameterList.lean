import CodeSmells.Grouping
import CodeSmells.Smell.Detector

/-!
Long parameter lists: too many parameters, or parameters that travel together because their names
share the part before the first underscore.
-/

set_option autoImplicit false

namespace CodeSmells.LongParameterList

/-- Parameters whose names share a leading part. -/
structure RelatedGroup where
  stem : String
  members : List String
deriving DecidableEq, Inhabited

/-- The part of a lower case name before its first underscore, leading underscores aside. -/
def stemOf (lowered : List Char) : String :=
  String.ofList ((lowered.dropWhile (· == '_')).takeWhile (· != '_'))

/-- All groups of the names, in lower case. -/
def allGroups (names : List String) : List RelatedGroup :=
  (groupBy (fun n => stemOf n.toList) (names.map Text.lowercase)).map fun (stem, members) =>
    ⟨stem, members⟩

/-- The groups with at least as many members as a limit asks. -/
def relatedGroups (names : List String) (limit : Value) : Except Fault (List RelatedGroup) :=
  (allGroups names).filterM fun g => Measured.atLeast (g.members.length : Nat) limit

/-- The parameters of a method and the groups among them. -/
structure Findings where
  parameterCount : Nat
  groups : List RelatedGroup
  parameters : List String
deriving DecidableEq, Inhabited

/-- Looks at the parameters of a method. -/
def findings (m : Method) (t : Thresholds) : Except Fault Findings := do
  return ⟨m.parameters.length, ← relatedGroups m.parameterNames (← t.get "max_related_params"),
    m.parameters.map Parameter.signature⟩

namespace Findings

variable (f : Findings)

/-- Whether there are too many parameters or a group among them. -/
def detected (t : Thresholds) : Except Fault Bool := do
  if ← anyAbove t [(f.parameterCount, "max_params")] then return true else return !f.groups.isEmpty

/-- How grave the number of parameters is. -/
def severity : Severity :=
  .grade [(f.parameterCount > 7, .high), (f.parameterCount > 4, .medium)]

/-- The findings as a table. -/
def toValue (t : Thresholds) : Value :=
  .table [
    ("parameter_count", .count f.parameterCount),
    ("related_groups", .row (f.groups.map fun g => .table [
      ("prefix", .text g.stem),
      ("parameters", .texts g.members),
      ("count", .count g.members.length)])),
    ("parameters", .texts f.parameters),
    ("thresholds", t.configured)]

end Findings

/-- The detector of long parameter lists. -/
def detector : Detector where
  name := "LongParameterList"
  description := "Method takes too many parameters or parameters that always travel together"
  scopes := [.perMethod]
  defaults := [("max_params", .whole 4), ("max_related_params", .whole 3)]
  evaluate scope t :=
    match scope with
    | .ofMethod m .. => do
      let f ← findings m t
      return some ⟨← f.detected t, f.severity, scope.location, f.toValue t⟩
    | _ => .ok none

end CodeSmells.LongParameterList
