import CodeSmells.Grouping
import CodeSmells.Metric.Coupling
import CodeSmells.Smell.Detector

/-!
Shotgun surgery: one change that ripples through many classes. Two shapes are reported: a class
that depends on many others, and a method that is called from many classes.
-/

set_option autoImplicit false

namespace CodeSmells.ShotgunSurgery

/-- A method of a class, by names. -/
structure MethodRef where
  owner : String
  method : String
deriving DecidableEq, Inhabited

instance : LT MethodRef :=
  ⟨fun a b => a.owner < b.owner ∨ (a.owner = b.owner ∧ a.method < b.method)⟩

instance : DecidableLT MethodRef := fun a b =>
  inferInstanceAs (Decidable (a.owner < b.owner ∨ (a.owner = b.owner ∧ a.method < b.method)))

/-- The two shapes of a surgery. -/
inductive Kind where
  | classReferences
  | methodCallers
deriving DecidableEq, Inhabited

/-- The name of a shape in reports. -/
def Kind.name : Kind → String
  | classReferences => "class_references"
  | methodCallers => "method_callers"

/-- A class or method whose change affects other classes. -/
structure Surgery where
  kind : Kind
  subject : String
  affected : List String
deriving DecidableEq, Inhabited

/-- The methods of other classes that a class calls. -/
def foreignCallees (p : Project) (k : Class) : List MethodRef :=
  (k.methods.flatMap (·.calls)).filterMap fun e =>
    match p.resolveCallee e with
    | some (owner, method) => if owner == k.name then none else some ⟨owner, method⟩
    | none => none

/-- Every called method of another class with the name of a calling class. -/
def callPairs (p : Project) : List (MethodRef × String) :=
  p.classes.flatMap fun k => (foreignCallees p k).map (·, k.name)

/-- The names of the classes that call a method. -/
def callersOf (calls : List (MethodRef × String)) (target : MethodRef) : List String :=
  sortedSet ((calls.filter fun c => c.1 == target).map (·.2))

/-- One surgery for every class that depends on other classes. -/
def classCandidates (p : Project) : List Surgery :=
  p.classes.map fun k => ⟨.classReferences, k.name, k.dependencies p⟩

/-- One surgery for every method that other classes call. -/
def methodCandidates (p : Project) : List Surgery :=
  let calls := callPairs p
  (sortedSet (calls.map (·.1))).map fun ref =>
    ⟨.methodCallers, ref.owner ++ "." ++ ref.method, callersOf calls ref⟩

/-- The surgeries found in a project. -/
structure Findings where
  surgeries : List Surgery
deriving DecidableEq, Inhabited

/-- Finds the surgeries that affect more classes than their limits allow. -/
def findings (p : Project) (t : Thresholds) : Except Fault Findings := do
  let maxClasses ← t.get "max_classes"
  let maxCallers ← t.get "max_caller_classes"
  let ofClasses ← (classCandidates p).filterM fun s =>
    Measured.above (s.affected.length : Nat) maxClasses
  let ofMethods ← (methodCandidates p).filterM fun s =>
    Measured.above (s.affected.length : Nat) maxCallers
  return ⟨ofClasses ++ ofMethods⟩

namespace Findings

variable (f : Findings)

/-- The number of classes that the worst surgery affects. -/
def worst : Nat :=
  greatest (f.surgeries.map (·.affected.length))

/-- How grave the worst surgery is. -/
def severity : Severity :=
  .grade [(f.worst > 8, .critical), (f.worst > 5, .high), (f.worst > 3, .medium)]

/-- The findings as a table. -/
def toValue (t : Thresholds) : Value :=
  .table [
    ("surgeries", .row (f.surgeries.map fun s => .table [
      ("kind", .text s.kind.name),
      ("subject", .text s.subject),
      ("affected_classes", .texts s.affected)])),
    ("max_affected_classes", .count f.worst),
    ("thresholds", t.configured)]

end Findings

/-- The detector of shotgun surgery. -/
def detector : Detector where
  name := "ShotgunSurgery"
  description := "A single change requires edits across many classes"
  scopes := [.perProject]
  defaults := [("max_classes", .whole 3), ("max_caller_classes", .whole 4)]
  heuristic := true
  evaluate scope t :=
    match scope with
    | .ofProject p => do
      let f ← findings p t
      return some ⟨!f.surgeries.isEmpty, f.severity, scope.location, f.toValue t⟩
    | _ => .ok none

end CodeSmells.ShotgunSurgery
