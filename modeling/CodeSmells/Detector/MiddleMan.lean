import CodeSmells.Metric.Lines
import CodeSmells.Smell.Detector

/-!
Middle men: classes most of whose methods only forward to another class.
-/

set_option autoImplicit false

namespace CodeSmells.MiddleMan

/-- A method that forwards to one foreign call. -/
structure Delegation where
  method : String
  target : String
  callee : String
deriving DecidableEq, Inhabited

/-- The foreign call that a short method with no other call forwards to. -/
def delegation? (owner : String) (m : Method) : Option Delegation :=
  match m.calls with
  | [e] =>
    if m.loc > 3 || ["", "self", "super", owner].contains e.qualifier then none
    else some ⟨m.name, headSegment e.qualifier, e.callee⟩
  | _ => none

/-- The forwarding methods of a class. -/
structure Findings where
  delegations : List Delegation
  methodCount : Nat
deriving DecidableEq, Inhabited

/-- Finds the forwarding methods of a class. -/
def findings (k : Class) : Findings :=
  ⟨k.methods.filterMap (delegation? k.name), k.methodCount⟩

namespace Findings

variable (f : Findings)

/-- The share of methods that forward. -/
def ratio : Quantity :=
  shareOf f.delegations.length f.methodCount

/-- Whether too many methods forward. -/
def detected (t : Thresholds) : Except Fault Bool := do
  Measured.above f.ratio (← t.get "max_delegation_ratio")

/-- How grave the share is. -/
def severity : Severity :=
  .grade [(Quantity.lt (.ratio 8 10) f.ratio, .high), (Quantity.lt (.ratio 1 2) f.ratio, .medium)]

/-- The findings as a table. -/
def toValue (t : Thresholds) : Value :=
  .table [
    ("delegation_ratio", .real (f.ratio.roundPlaces 4)),
    ("delegating_methods", .row (f.delegations.map fun d => .table [
      ("method", .text d.method), ("target", .text d.target), ("callee", .text d.callee)])),
    ("method_count", .count f.methodCount),
    ("thresholds", t.configured)]

end Findings

/-- The detector of middle men. -/
def detector : Detector where
  name := "MiddleMan"
  description := "Class delegates most of its work to another class"
  scopes := [.perClass]
  defaults := [("max_delegation_ratio", .real (.ratio 1 2))]
  ratioKeys := ["max_delegation_ratio"]
  heuristic := true
  evaluate scope t :=
    match scope with
    | .ofClass k .. => do
      let f := findings k
      return some ⟨← f.detected t, f.severity, scope.location, f.toValue t⟩
    | _ => .ok none

end CodeSmells.MiddleMan
