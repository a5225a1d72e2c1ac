import CodeSmells.Grouping
import CodeSmells.Smell.Detector

/-!
Feature envy: a method that accesses the fields of other classes far more than its own.
-/

set_option autoImplicit false

namespace CodeSmells.FeatureEnvy

/-- Whether an access stays within the class of a name. -/
def isLocal (own : String) (a : FieldAccess) : Bool :=
  a.owner == own || a.owner == "self"

/-- The accessed fields: own ones, and those of other classes by class. -/
structure Findings where
  localFields : List String
  foreign : List (String × List String)
deriving DecidableEq, Inhabited

/-- Sorts the field accesses of a method by owner; the owners stand in increasing order. -/
def findings (m : Method) (owner : Class) : Findings where
  localFields := sortedSet ((m.accesses.filter (isLocal owner.name)).map (·.field))
  foreign :=
    (groupBy FieldAccess.owner ((sortedSet m.accesses).filter fun a => !isLocal owner.name a)).map
      fun g => (g.1, sortedSet (g.2.map FieldAccess.field))

namespace Findings

variable (f : Findings)

/-- The number of own fields accessed. -/
def localCount : Nat :=
  f.localFields.length

/-- The number of foreign fields accessed. -/
def foreignCount : Nat :=
  total (f.foreign.map (·.2.length))

/-- Foreign fields per own field, one own field added. -/
def envyRatio : Quantity :=
  .ratio f.foreignCount (f.localCount + 1)

/-- Whether both the ratio and the number of foreign fields exceed their limits. -/
def detected (t : Thresholds) : Except Fault Bool := do
  if ← Measured.above f.envyRatio (← t.get "envy_ratio") then
    Measured.above f.foreignCount (← t.get "min_foreign_accesses")
  else return false

/-- How grave the ratio is. -/
def severity : Severity :=
  .grade [
    (Quantity.lt (.ratio 5 1) f.envyRatio, .critical),
    (Quantity.lt (.ratio 7 2) f.envyRatio, .high),
    (Quantity.lt (.ratio 2 1) f.envyRatio, .medium)]

/-- The findings as a table. -/
def toValue (t : Thresholds) : Value :=
  .table [
    ("envy_ratio", .real (f.envyRatio.roundPlaces 2)),
    ("local_access_count", .count f.localCount),
    ("foreign_access_count", .count f.foreignCount),
    ("foreign_classes", .row (f.foreign.map fun (owner, fields) => .table [
      ("owner", .text owner), ("fields", .texts fields)])),
    ("thresholds", t.configured)]

end Findings

/-- The detector of feature envy. -/
def detector : Detector where
  name := "FeatureEnvy"
  description := "Method is more interested in the data of other classes than its own"
  scopes := [.perMethod]
  defaults := [("envy_ratio", .real (.ratio 2 1)), ("min_foreign_accesses", .whole 3)]
  heuristic := true
  evaluate scope t :=
    match scope with
    | .ofMethod m k _ => do
      let f := findings m k
      return some ⟨← f.detected t, f.severity, scope.location, f.toValue t⟩
    | _ => .ok none

end CodeSmells.FeatureEnvy
