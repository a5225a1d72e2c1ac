import CodeSmells.Analysis.Outcome

/-!
The sections of a report: one for each file, or one for each severity that occurs, the gravest
first. Inside a section the gravest smells come first.
-/

set_option autoImplicit false

namespace CodeSmells.Report

/-- How a report is written. -/
structure Style where
  includeDetails : Bool := true
  groupBySeverity : Bool := false
deriving DecidableEq, Inhabited

/-- A heading and the smells under it. -/
structure Section where
  heading : String
  smells : List Result

/-- One section for each file. -/
def fileSections (o : Outcome) : List Section :=
  o.byFile.map fun (name, smells) => ⟨name, gravestFirst smells⟩

/-- One section for each severity that occurs. -/
def severitySections (o : Outcome) : List Section :=
  Severity.all.reverse.filterMap fun s =>
    match o.withSeverity s with
    | [] => none
    | smells => some ⟨s.name, smells⟩

/-- The sections of a report. -/
def sections (o : Outcome) (style : Style) : List Section :=
  if style.groupBySeverity then severitySections o else fileSections o

/-- The name of the severity of a smell. -/
def severityName (r : Result) : String :=
  (r.severity.map (·.name)).getD ""

/-- The details of a smell as entries. -/
def detailEntries (r : Result) : Entries :=
  match r.details with
  | .table es => es
  | _ => []

end CodeSmells.Report
