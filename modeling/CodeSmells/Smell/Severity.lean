/-!
Severities, from low to critical, and grading by the first condition that holds.
-/

set_option autoImplicit false

namespace CodeSmells

/-- How grave a smell is. -/
inductive Severity where
  | low
  | medium
  | high
  | critical
deriving DecidableEq, Inhabited

namespace Severity

/-- All severities, the least grave first. -/
def all : List Severity :=
  [low, medium, high, critical]

/-- The rank of a severity, from one to four. -/
def level : Severity → Nat
  | low => 1
  | medium => 2
  | high => 3
  | critical => 4

/-- The name of a severity in reports. -/
def name : Severity → String
  | low => "Low"
  | medium => "Medium"
  | high => "High"
  | critical => "Critical"

/-- The severity of a name. -/
def ofName? (s : String) : Option Severity :=
  all.find? fun v => v.name == s

/-- Severities are told apart by their ranks. -/
theorem level_inj {s t : Severity} : s.level = t.level ↔ s = t := by
  cases s <;> cases t <;> decide

/-- The severity of the first tier whose condition holds, else the fallback. -/
def gradeOr (fallback : Severity) (tiers : List (Bool × Severity)) : Severity :=
  match tiers.find? (·.1) with
  | some (_, s) => s
  | none => fallback

/-- The severity of the first tier whose condition holds; low when none does. -/
def grade (tiers : List (Bool × Severity)) : Severity :=
  gradeOr low tiers

end Severity

end CodeSmells
