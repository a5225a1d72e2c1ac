import CodeSmells.Smell.Location
import CodeSmells.Smell.Severity

/-!
The outcome of one detector at one scope. A result has a severity exactly when the smell was
detected.
-/

set_option autoImplicit false

namespace CodeSmells

/-- What a detector found at a scope. -/
structure Result where
  smell : String
  detected : Bool
  severity : Option Severity
  location : Location
  details : Value
  detected_eq : detected = severity.isSome

/-- Why a result cannot be built. -/
inductive ResultError where
  | missingSeverity (smell : String)
  | straySeverity (smell : String)
deriving DecidableEq, Inhabited

/-- The wording of each reason. -/
def ResultError.message : ResultError → String
  | missingSeverity smell => smell ++ ": a detected smell needs a severity"
  | straySeverity smell => smell ++ ": severity is only set on detected smells"

namespace Result

/-- A result, provided that flag and severity agree. -/
def make (smell : String) (detected : Bool) (severity : Option Severity) (location : Location)
    (details : Value) : Except ResultError Result :=
  if h : detected = severity.isSome then .ok ⟨smell, detected, severity, location, details, h⟩
  else if detected then .error (.missingSeverity smell)
  else .error (.straySeverity smell)

/-- The rank of the severity; nought when nothing was detected. -/
def severityLevel (r : Result) : Nat :=
  match r.severity with
  | some s => s.level
  | none => 0

/-- The result as a table, with or without its details. -/
def toValue (includeDetails : Bool) (r : Result) : Value :=
  .table ([
    ("smell", .text r.smell),
    ("detected", .flag r.detected),
    ("severity", .optText (r.severity.map (·.name))),
    ("location", r.location.toValue)] ++
    if includeDetails then [("details", r.details)] else [])

end Result

end CodeSmells
