import CodeSmells.Config.Error
import CodeSmells.File.Path
import CodeSmells.Report.FileName
import CodeSmells.Report.Html
import CodeSmells.Report.Plain

/-!
The files of a report. As text or page a report is one file. As data it is one file for each source
file with smells and a summary; a name that was given out before gets a number. A file has no text
when a number in it is too long to be written.
-/

set_option autoImplicit false

namespace CodeSmells.Report

/-- A file of a report: its name, and its text or why it has none. -/
structure OutputFile where
  name : String
  text : Except String String
deriving Inhabited

/-- The stem of the file with the smells of a source file. -/
def stemOf (source : String) : String :=
  if source == wholeProject then "project" else slug (Path.ofText source).stem

/-- A stem with the number of its use. -/
def numberedName (stem : String) (uses : Nat) : String :=
  if uses == 0 then stem ++ ".json" else stem ++ "-" ++ toString (uses + 1) ++ ".json"

/-- File names for source files in order; `used` holds the stems given out before. -/
def outputNames (used : List String) : List String → List String
  | [] => []
  | source :: rest =>
    numberedName (stemOf source) (used.count (stemOf source)) ::
      outputNames (stemOf source :: used) rest

/-- The smells of a source file as data. -/
def sourcePayload (includeDetails : Bool) (source : String) (smells : List Result) : Value :=
  .table [("file", .text source),
    ("smells", .list ((gravestFirst smells).map (Result.toValue includeDetails)))]

/-- The summary as data: the summary of the outcome, then which file holds what. -/
def summaryPayload (o : Outcome) (names : List String) : Value :=
  .table (o.summary ++ [
    ("reports", .table ((o.byFile.zip names).map fun (g, name) => (g.1, .text name))),
    ("failures_detail", o.failureValues),
    ("config", .table o.settings.toDocument)])

/-- The files of a report as data, in the order in which they are written. -/
def dataFiles (o : Outcome) (includeDetails : Bool) : List OutputFile :=
  let names := outputNames [] (o.byFile.map (·.1))
  ((o.byFile.zip names).map fun (g, name) =>
    ⟨name, Json.indented (sourcePayload includeDetails g.1 g.2)⟩) ++
    [⟨"summary.json", Json.indented (summaryPayload o names)⟩]

/-- The files of a report in the order in which they are written. -/
def files (o : Outcome) (style : Style) : ReportFormat → List OutputFile
  | .json => dataFiles o style.includeDetails
  | .txt => [⟨"report.txt", plain o style⟩]
  | .html => [⟨"report.html", page o style⟩]

/-- The time of a run as a part of names: the digits of the day, a hyphen, the digits of the time. -/
def runStamp (day : CalendarDay) (clock : ClockTime) : String :=
  zeroPadded 4 day.year ++ zeroPadded 2 day.month ++ zeroPadded 2 day.day ++ "-" ++
    zeroPadded 2 clock.hour ++ zeroPadded 2 clock.minute ++ zeroPadded 2 clock.second

/-- The directory of a run: the project and the time of the run. -/
def directoryName (o : Outcome) (stamp : String) : String :=
  slug o.project.name ++ "-" ++ stamp

/-- The format that a text asks for. -/
def requestedFormat (s : String) : Except ConfigError ReportFormat :=
  match ReportFormat.ofText? s with
  | some f => .ok f
  | none => .error (.unsupportedFormat (ReportFormat.normalize s))

end CodeSmells.Report
