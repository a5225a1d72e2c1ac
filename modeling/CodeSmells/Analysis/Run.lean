import CodeSmells.Analysis.Analyzer
import CodeSmells.Script.Folder

/-!
Reading a project from its directory and analyzing it. The metadata of the outcome tell where the
project was, how many scripts were read and how long it took.
-/

set_option autoImplicit false

namespace CodeSmells

/-- What is known of a run before the detectors start. -/
def Script.ProjectReading.metadata (r : Script.ProjectReading) (path : String) : Entries :=
  [("project_path", .text path),
   ("files_analyzed", .count r.parsed),
   ("files_skipped", .count r.skipped),
   ("classes_analyzed", .count r.project.classes.length),
   ("methods_analyzed", .count r.project.methodCount)]

/-- Reads the project in a directory, given by its path and its own name, and analyzes it. -/
def Analyzer.run (a : Analyzer) (path directory : String) (files : FileTree) (seconds : Quantity) :
    Except ModelError Outcome := do
  let reading ← Script.readProject directory files
  let outcome := a.analyze reading.project (reading.metadata path)
  return { outcome with metadata := outcome.metadata.put "duration_seconds" (.real seconds) }

end CodeSmells
