import CodeSmells.Report.Sections

/-!
The report as plain text. There is none when a number that it shows is too long.
-/

set_option autoImplicit false

namespace CodeSmells.Report

/-- A text filled up with blanks on the right to a width. -/
def padRight (width : Nat) (s : String) : String :=
  s ++ "".pushn ' ' (width - s.length)

/-- The lines on the details of a smell. -/
def detailLines (style : Style) (r : Result) : Except String (List String) :=
  if style.includeDetails then
    (detailEntries r).mapM fun (k, v) => return "      " ++ k ++ ": " ++ (← v.describe)
  else return []

/-- The lines for a smell. -/
def smellLines (style : Style) (r : Result) : Except String (List String) := do
  let details ← detailLines style r
  return ("  [" ++ severityName r ++ "] " ++ r.smell ++ " at " ++ r.location.describe) :: details

/-- The lines of a section, an empty line in front. -/
def sectionLines (style : Style) (s : Section) : Except String (List String) := do
  let smells ← s.smells.mapM (smellLines style)
  return ["", s.heading, "".pushn '-' s.heading.length] ++ smells.flatten

/-- The lines on the counts by kind; none when nothing was detected. -/
def typeLines (counts : List (String × Nat)) : List String :=
  if counts.isEmpty then []
  else
    ["", "By type:"] ++ (counts.mergeSort fun a b => !(b.1 < a.1)).map fun (name, n) =>
      "  " ++ padRight 28 name ++ " " ++ toString n

/-- The lines on the failures; none when there are none. -/
def failureLines (failures : List DetectorFailure) : List String :=
  if failures.isEmpty then []
  else
    ["", "Detector failures:"] ++ failures.map fun f =>
      "  " ++ f.detector ++ " on " ++ f.scope ++ ": " ++ f.error

/-- The lines of the report. -/
def plainLines (o : Outcome) (style : Style) : Except String (List String) := do
  let blocks ← (sections o style).mapM (sectionLines style)
  return ["Code smell report: " ++ o.project.name,
   "".pushn '=' 60,
   "Total smells: " ++ toString o.detected.length,
   "Files with smells: " ++ toString o.filesWithSmells,
   "",
   "By severity:"] ++
    (o.severityCounts.map fun (s, n) => "  " ++ padRight 10 s.name ++ " " ++ toString n) ++
    typeLines o.typeCounts ++
    blocks.flatten ++
    failureLines o.failures

/-- The report as plain text. -/
def plain (o : Outcome) (style : Style) : Except String String := do
  return String.intercalate "\n" (← plainLines o style) ++ "\n"

end CodeSmells.Report
