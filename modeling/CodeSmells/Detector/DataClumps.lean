import CodeSmells.Grouping
import CodeSmells.Smell.Detector

/-!
Data clumps: groups of three or more names that keep turning up together. Every triple of the
parameter names of a method, and likewise of its own fields, is recorded against the method;
triples recorded against the same methods merge into one clump.
-/

set_option autoImplicit false

namespace CodeSmells.DataClumps

/-- Three names in increasing order. -/
abbrev Triple := String × String × String

/-- The triples of a set of names. -/
def triplesOf (names : List String) : List Triple :=
  triples (sortedSet names)

/-- The label of a method in a class. -/
def label (k : Class) (m : Method) : String :=
  k.name ++ "." ++ m.name

/-- Every triple with the label of a method that holds it, over all methods in order. -/
def records (p : Project) (names : Class → Method → List String) : List (Triple × String) :=
  p.classes.flatMap fun k => k.methods.flatMap fun m =>
    (triplesOf (names k m)).map (·, label k m)

/-- What the names of a clump are. -/
inductive Kind where
  | parameters
  | fields
deriving DecidableEq, Inhabited

/-- The name of a kind in reports. -/
def Kind.name : Kind → String
  | parameters => "parameters"
  | fields => "fields"

/-- A group of names with the methods in which it occurs. -/
structure Clump where
  members : List String
  kind : Kind
  methods : List String
deriving DecidableEq, Inhabited

/-- The names of a triple. -/
def Triple.toNames : Triple → List String
  | (a, b, c) => [a, b, c]

/-- Each triple with the labels of the methods that hold it. -/
def holders (recorded : List (Triple × String)) : List (Triple × List String) :=
  (groupBy Prod.fst recorded).map fun g => (g.1, g.2.map Prod.snd)

/-- Merges the triples that are recorded against the same methods. -/
def merge (kind : Kind) (recorded : List (Triple × String)) : List Clump :=
  (groupBy Prod.snd (holders recorded)).map fun g =>
    ⟨sortedSet (g.2.flatMap fun e => e.1.toNames), kind, g.1⟩

/-- The own fields that a method accesses. -/
def ownFields (k : Class) (m : Method) : List String :=
  (m.accesses.filter fun a => a.owner == k.name).map (·.field)

/-- All clumps of a project, those of parameters first. -/
def allClumps (p : Project) : List Clump :=
  merge .parameters (records p fun _ m => m.parameterNames) ++ merge .fields (records p ownFields)

/-- The clumps of a project that are frequent and large enough. -/
structure Findings where
  clumps : List Clump
  totalClasses : Nat
deriving DecidableEq, Inhabited

/-- Whether a clump reaches both limits. -/
def isLarge (t : Thresholds) (c : Clump) : Except Fault Bool := do
  if ← Measured.atLeast (c.methods.length : Nat) (← t.get "min_occurrences") then
    Measured.atLeast (c.members.length : Nat) (← t.get "min_clump_size")
  else return false

/-- Finds the clumps of a project. -/
def findings (p : Project) (t : Thresholds) : Except Fault Findings := do
  return ⟨← (allClumps p).filterM (isLarge t), p.classes.length⟩

namespace Findings

variable (f : Findings)

/-- How grave the clumps are. -/
def severity : Severity :=
  .grade [
    (greatest (f.clumps.map (·.members.length)) ≥ 5, .high),
    (f.clumps.length > 3, .medium)]

/-- The findings as a table. -/
def toValue (t : Thresholds) : Value :=
  .table [
    ("clump_count", .count f.clumps.length),
    ("clumps", .row (f.clumps.map fun c => .table [
      ("variables", .texts c.members),
      ("kind", .text c.kind.name),
      ("occurrences", .count c.methods.length),
      ("methods", .texts c.methods)])),
    ("total_classes", .count f.totalClasses),
    ("thresholds", t.configured)]

end Findings

/-- The detector of data clumps. -/
def detector : Detector where
  name := "DataClumps"
  description := "The same group of parameters or fields recurs across many methods"
  scopes := [.perProject]
  defaults := [("min_clump_size", .whole 3), ("min_occurrences", .whole 3)]
  evaluate scope t :=
    match scope with
    | .ofProject p => do
      let f ← findings p t
      return some ⟨!f.clumps.isEmpty, f.severity, scope.location, f.toValue t⟩
    | _ => .ok none

end CodeSmells.DataClumps
