import CodeSmells.Config.Settings
import CodeSmells.Grouping

/-!
The outcome of an analysis: every result of every detector, with the groupings that reports need.
Only detected smells are grouped. Groups stand in the order in which their keys first occur, and
their members keep the order of the results.
-/

set_option autoImplicit false

namespace CodeSmells

/-- A detector that broke off at a scope. -/
structure DetectorFailure where
  detector : String
  scope : String
  error : String
deriving DecidableEq, Inhabited

/-- The failure as a table. -/
def DetectorFailure.toValue (f : DetectorFailure) : Value :=
  .table [("detector", .text f.detector), ("scope", .text f.scope), ("error", .text f.error)]

/-- What stands for the file of a smell that belongs to the whole project. -/
def wholeProject : String :=
  "<project>"

/-- The file that a result is filed under. -/
def Result.fileKey (r : Result) : String :=
  (firstPresent r.location.file (some wholeProject)).getD wholeProject

/-- Results from the gravest to the least grave; equally grave ones keep their order. -/
def gravestFirst (rs : List Result) : List Result :=
  rs.mergeSort fun a b => b.severityLevel ≤ a.severityLevel

/-- The outcome of an analysis. -/
structure Outcome where
  project : Project
  results : List Result
  settings : Settings
  metadata : Entries
  failures : List DetectorFailure

namespace Outcome

variable (o : Outcome)

/-- The results at which a smell was detected. -/
def detected : List Result :=
  o.results.filter (·.detected)

/-- The detected smells of one severity. -/
def withSeverity (s : Severity) : List Result :=
  o.detected.filter fun r => r.severity == some s

/-- The detected smells by their kind. -/
def byType : List (String × List Result) :=
  groupBy Result.smell o.detected

/-- The detected smells by their file. -/
def byFile : List (String × List Result) :=
  groupBy Result.fileKey o.detected

/-- Counts of severities after one more result. -/
def countSeverity (counts : List (Severity × Nat)) (r : Result) : List (Severity × Nat) :=
  counts.map fun (s, n) => (s, if r.severity == some s then n + 1 else n)

/-- How many smells of each severity were detected, the gravest first. -/
def severityCounts : List (Severity × Nat) :=
  o.detected.foldl countSeverity (Severity.all.reverse.map (·, 0))

/-- How many smells of each kind were detected. -/
def typeCounts : List (String × Nat) :=
  o.byType.map fun (name, rs) => (name, rs.length)

/-- How many files have smells. -/
def filesWithSmells : Nat :=
  (o.byFile.filter fun g => g.1 != wholeProject).length

/-- The detected smells, the gravest first. -/
def bySeverity : List Result :=
  gravestFirst o.detected

/-- Counts under names as a table. -/
def countTable (counts : List (String × Nat)) : Value :=
  .table (counts.map fun (name, n) => (name, .count n))

/-- The summary of the outcome. -/
def summary : Entries :=
  [("project", .text o.project.name),
   ("total_smells", .count o.detected.length),
   ("by_severity", countTable (o.severityCounts.map fun (s, n) => (s.name, n))),
   ("by_type", countTable o.typeCounts),
   ("files_with_smells", .count o.filesWithSmells),
   ("project_stats", o.project.statistics.toValue),
   ("analysis_metadata", .table o.metadata),
   ("failures", .count o.failures.length)]

/-- The failures as values. -/
def failureValues : Value :=
  .list (o.failures.map DetectorFailure.toValue)

/-- The whole outcome as a table. -/
def toValue (includeDetails : Bool) : Value :=
  .table [
    ("summary", .table o.summary),
    ("smells", .list (o.bySeverity.map (Result.toValue includeDetails))),
    ("failures", o.failureValues),
    ("config", .table o.settings.toDocument)]

end Outcome

end CodeSmells
