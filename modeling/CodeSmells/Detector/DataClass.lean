import CodeSmells.Smell.Detector

/-!
Data classes: classes that hold data and expose it without behaviour of their own.
-/

set_option autoImplicit false

namespace CodeSmells.DataClass

open Text (lower occursIn)

/-- Named like an accessor, or a short body that returns without calculating or processing. -/
def isAccessor (m : Method) : Bool :=
  let body := lower m.bodyText
  lowerStartsWith accessorMarks m.name ||
    (m.loc ≤ 3 && occursIn "return ".toList body && !occursIn "calculate".toList body &&
      !occursIn "process".toList body)

/-- The fields and methods of a class by kind. -/
structure Findings where
  fieldCount : Nat
  publicFields : List String
  accessors : List String
  behaviors : List String
deriving DecidableEq, Inhabited

/-- Sorts the members of a class by kind. -/
def findings (k : Class) : Findings where
  fieldCount := k.fieldCount
  publicFields := k.publicFields
  accessors := (k.methods.filter isAccessor).map (·.name)
  behaviors := (k.methods.filter fun m => !isAccessor m).map (·.name)

namespace Findings

variable (f : Findings)

/-- Whether there is little behaviour, and too many fields. -/
def detected (t : Thresholds) : Except Fault Bool := do
  if ← Measured.atMost f.behaviors.length (← t.get "max_behavior_methods") then
    anyAbove t [(f.publicFields.length, "max_public_fields"),
      (f.fieldCount, "data_class_max_fields")]
  else return false

/-- How grave the number of public fields is. -/
def severity : Severity :=
  .grade [(f.publicFields.length > 5, .medium)]

/-- The findings as a table. -/
def toValue (t : Thresholds) : Value :=
  .table [
    ("field_count", .count f.fieldCount),
    ("public_fields", .texts f.publicFields),
    ("accessor_methods", .texts f.accessors),
    ("behavior_methods", .texts f.behaviors),
    ("thresholds", t.configured)]

end Findings

/-- The detector of data classes. -/
def detector : Detector where
  name := "DataClass"
  description := "Class only holds data and exposes it without behavior of its own"
  scopes := [.perClass]
  defaults := [("max_behavior_methods", .whole 0), ("max_public_fields", .whole 0),
    ("data_class_max_fields", .whole 3)]
  evaluate scope t :=
    match scope with
    | .ofClass k .. => do
      let f := findings k
      return some ⟨← f.detected t, f.severity, scope.location, f.toValue t⟩
    | _ => .ok none

end CodeSmells.DataClass
