import CodeSmells.Catalog

/-!
Settings of an analysis: which detectors run, which thresholds are overridden and how the report is
written.
-/

set_option autoImplicit false

namespace CodeSmells

/-- The formats of a report. -/
inductive ReportFormat where
  | json
  | txt
  | html
deriving DecidableEq, Inhabited

namespace ReportFormat

/-- All formats. -/
def all : List ReportFormat :=
  [json, txt, html]

/-- The name of a format. -/
def name : ReportFormat → String
  | json => "json"
  | txt => "txt"
  | html => "html"

/-- The names of all formats, for messages. -/
def choices : String :=
  String.intercalate ", " (all.map name)

/-- A text as the name of a format: without blanks around it and in lower case. -/
def normalize (s : String) : String :=
  String.ofList (Text.lower (Text.trim s.toList))

/-- The format that a text names. -/
def ofText? (s : String) : Option ReportFormat :=
  all.find? fun f => f.name == normalize s

end ReportFormat

/-- How the report is written. -/
structure OutputSettings where
  format : ReportFormat := .json
  directory : String := "analysis-results"
  includeDetails : Bool := true
  groupBySeverity : Bool := false
deriving DecidableEq, Inhabited

/-- The settings of an analysis. -/
structure Settings where
  enabledDetectors : List String := Catalog.names
  thresholds : Entries := []
  output : OutputSettings := {}
deriving Inhabited

/-- The output settings as a table. -/
def OutputSettings.toValue (o : OutputSettings) : Value :=
  .table [
    ("format", .text o.format.name),
    ("directory", .text o.directory),
    ("include_details", .flag o.includeDetails),
    ("group_by_severity", .flag o.groupBySeverity)]

namespace Settings

variable (s : Settings)

/-- Every threshold with the value in force. -/
def effectiveThresholds : Entries :=
  s.thresholds.foldl (fun es (k, v) => Entries.put k v es) Catalog.defaultThresholds

/-- The thresholds of a detector with the values in force. -/
def thresholdsFor (d : Detector) : Entries :=
  d.defaults.map fun (k, v) => (k, (s.thresholds.get? k).getD v)

/-- The settings as a document, every threshold spelled out. -/
def toDocument : Entries :=
  [("enabled_detectors", .list (s.enabledDetectors.map .text)),
   ("thresholds", .table s.effectiveThresholds),
   ("output", s.output.toValue)]

end Settings

end CodeSmells
