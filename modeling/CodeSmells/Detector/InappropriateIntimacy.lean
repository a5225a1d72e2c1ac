import CodeSmells.Grouping
import CodeSmells.Metric.Coupling
import CodeSmells.Smell.Detector

/-!
Inappropriate intimacy: pairs of classes that reach into each other's private fields. The shared
intimacy counts the private accesses in both directions.
-/

set_option autoImplicit false

namespace CodeSmells.InappropriateIntimacy

/-- The private fields of a class that another one accesses, once per accessing method. -/
def privateAccesses (source : Class) (target : String) : List String :=
  source.methods.flatMap fun m =>
    (m.accesses.filter fun a => a.owner == target && a.isPrivate).map fun a =>
      target ++ "." ++ a.field

/-- Two classes and what they share. -/
structure IntimatePair where
  first : String
  second : String
  bidirectional : Bool
  sharedIntimacy : Nat
  privateFields : List String
deriving DecidableEq, Inhabited

/-- The intimacy of two classes. -/
def intimacy (a b : Class) : IntimatePair :=
  let touched := privateAccesses a b.name ++ privateAccesses b a.name
  { first := a.name
    second := b.name
    bidirectional := a.references b.name && b.references a.name
    sharedIntimacy := touched.length
    privateFields := sortedSet touched }

/-- The pairs that a scope looks at: a class with every class of another name, or every two classes
of the project. -/
def candidates : Scope → List IntimatePair
  | .ofClass k p _ => (p.classes.filter fun other => other.name != k.name).map (intimacy k)
  | .ofProject p => (pairs p.classes).map fun (a, b) => intimacy a b
  | .ofMethod .. => []

/-- Whether a pair is too intimate. -/
def isIntimate (t : Thresholds) (p : IntimatePair) : Except Fault Bool := do
  let limit ← t.get "max_shared_intimacy"
  let bothWays ← t.get "require_bidirectional"
  if p.bidirectional || !bothWays.isTruthy then Measured.above p.sharedIntimacy limit
  else return false

/-- The intimate pairs of a scope. -/
structure Findings where
  pairs : List IntimatePair
deriving DecidableEq, Inhabited

/-- Finds the intimate pairs of a scope. -/
def findings (scope : Scope) (t : Thresholds) : Except Fault Findings := do
  return ⟨← (candidates scope).filterM (isIntimate t)⟩

namespace Findings

variable (f : Findings)

/-- The greatest shared intimacy. -/
def worst : Nat :=
  greatest (f.pairs.map (·.sharedIntimacy))

/-- How grave the greatest intimacy is. -/
def severity : Severity :=
  .grade [(f.worst > 8, .high), (f.worst > 3, .medium)]

/-- The findings as a table. -/
def toValue (t : Thresholds) : Value :=
  .table [
    ("pairs", .row (f.pairs.map fun p => .table [
      ("first", .text p.first),
      ("second", .text p.second),
      ("bidirectional", .flag p.bidirectional),
      ("shared_intimacy", .count p.sharedIntimacy),
      ("private_fields", .texts p.privateFields)])),
    ("max_shared_intimacy", .count f.worst),
    ("thresholds", t.configured)]

end Findings

/-- The detector of inappropriate intimacy. -/
def detector : Detector where
  name := "InappropriateIntimacy"
  description := "Two classes depend on each other's private details"
  scopes := [.perClass, .perProject]
  defaults := [("max_shared_intimacy", .whole 3), ("require_bidirectional", .flag true)]
  heuristic := true
  evaluate scope t := do
    let f ← findings scope t
    return some ⟨!f.pairs.isEmpty, f.severity, scope.location, f.toValue t⟩

end CodeSmells.InappropriateIntimacy
