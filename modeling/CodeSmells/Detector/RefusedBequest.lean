import CodeSmells.Smell.Detector

/-!
Refused bequests: classes that use little of their parent, or override its methods with empty
bodies. Only parents that are classes of the project count.
-/

set_option autoImplicit false

namespace CodeSmells.RefusedBequest

open Text (lower occursIn trim)

/-- Two lines at most, and either nothing, `pass` or a call of the parent. -/
def isEmptyOverride (m : Method) : Bool :=
  let body := trim (lower m.bodyText)
  m.loc ≤ 2 && (body.isEmpty || body == "pass".toList || occursIn "super.".toList body ||
    occursIn "super(".toList body || occursIn ".call(".toList body)

/-- The ways in which a class may write a call of an inherited method. -/
def inheritedCallees (k : Class) (method : String) : List String :=
  method :: (["super", "self", k.name] ++ k.parent.toList).map (· ++ "." ++ method)

/-- Whether a class calls an inherited method. -/
def usesParentMethod (k : Class) (method : String) : Bool :=
  k.methods.any fun m => (inheritedCallees k method).any m.callsMethod

/-- An override with an empty body. -/
structure EmptyOverride where
  method : String
  loc : Nat
deriving DecidableEq, Inhabited

/-- How a class treats what it inherits. -/
structure Findings where
  usedMethods : List String
  totalParentMethods : Nat
  emptyOverrides : List EmptyOverride
deriving DecidableEq, Inhabited

/-- The empty override of an inherited method. -/
def emptyOverride? (k : Class) (method : String) : Option EmptyOverride :=
  match k.method? method with
  | some m => if isEmptyOverride m then some ⟨method, m.loc⟩ else none
  | none => none

/-- Compares a class with its parent. -/
def findings (k parent : Class) : Findings where
  usedMethods := parent.methodNames.filter (usesParentMethod k)
  totalParentMethods := parent.methodCount
  emptyOverrides := parent.methodNames.filterMap (emptyOverride? k)

namespace Findings

variable (f : Findings)

/-- The share of the parent's methods that are used; all when the parent has none. -/
def usageRatio : Quantity :=
  match f.totalParentMethods with
  | 0 => .finite 1
  | inherited + 1 => .ratio f.usedMethods.length (inherited + 1)

/-- Whether too little is used or too much is overridden by nothing. -/
def detected (t : Thresholds) : Except Fault Bool := do
  if ← Measured.below f.usageRatio (← t.get "usage_ratio") then return true
  else anyAbove t [(f.emptyOverrides.length, "overridden_empty")]

/-- How grave the refusal is. -/
def severity : Severity :=
  .grade [
    (f.usageRatio.le (.ratio 2 10) || f.emptyOverrides.length > 5, .high),
    (f.usageRatio.lt (.ratio 3 10) || f.emptyOverrides.length > 3, .medium)]

/-- The findings as a table. -/
def toValue (t : Thresholds) : Value :=
  .table [
    ("usage_ratio", .real (f.usageRatio.roundPlaces 4)),
    ("used_methods", .texts f.usedMethods),
    ("total_parent_methods", .count f.totalParentMethods),
    ("empty_overrides", .row (f.emptyOverrides.map fun o => .table [
      ("method", .text o.method), ("loc", .count o.loc)])),
    ("thresholds", t.configured)]

end Findings

/-- The detector of refused bequests. -/
def detector : Detector where
  name := "RefusedBequest"
  description :=
    "Subclass uses little of its parent or overrides parent methods with empty bodies"
  scopes := [.perClass]
  defaults := [("usage_ratio", .real (.ratio 3 10)), ("overridden_empty", .whole 0)]
  ratioKeys := ["usage_ratio"]
  heuristic := true
  evaluate scope t :=
    match scope with
    | .ofClass k p _ =>
      match k.parent.bind p.findClass with
      | some parent => do
        let f := findings k parent
        let location := { scope.location with parent := some parent.name }
        return some ⟨← f.detected t, f.severity, location, f.toValue t⟩
      | none => .ok none
    | _ => .ok none

end CodeSmells.RefusedBequest
