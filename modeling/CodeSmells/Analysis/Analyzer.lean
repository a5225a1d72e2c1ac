import CodeSmells.Analysis.Outcome

/-!
Running detectors over a project. Every scope of the project is shown to every detector that
understands its kind: first the methods class by class, then the classes, then the project. A
detector that breaks off leaves a failure in place of a result and does not disturb the others.
-/

set_option autoImplicit false

namespace CodeSmells

/-- Settings and the detectors to run, in order. -/
structure Analyzer where
  settings : Settings
  detectors : List Detector

/-- Every scope of a project in the order of analysis. -/
def Project.scopes (p : Project) : List Scope :=
  (p.classes.flatMap fun k => k.methods.map fun m => .ofMethod m k k.filePath) ++
    (p.classes.map fun k => .ofClass k p k.filePath) ++ [.ofProject p]

namespace Analyzer

/-- The analyzer that runs the detectors enabled in the settings, in the order of the catalog. -/
def ofSettings (s : Settings) : Analyzer :=
  ⟨s, Catalog.detectors.filter fun d => s.enabledDetectors.contains d.name⟩

variable (a : Analyzer)

/-- The thresholds for the detectors of a name: those that its last detector declares. -/
def thresholdsOf (name : String) : Entries :=
  match a.detectors.reverse.find? fun d => d.name == name with
  | some d => a.settings.thresholdsFor d
  | none => []

/-- What a detector contributes at a scope: a result, a failure, or nothing. -/
def inspect (scope : Scope) (d : Detector) : Option (Except DetectorFailure Result) :=
  match d.detect scope (a.thresholdsOf d.name) with
  | .ok found => found.map .ok
  | .error fault => some (.error ⟨d.name, scope.describe, fault.message⟩)

/-- All contributions at the scopes of a project, scope by scope. -/
def contributions (p : Project) : List (Except DetectorFailure Result) :=
  p.scopes.flatMap fun scope => a.detectors.filterMap (a.inspect scope)

/-- The names of the detectors, added to the metadata unless they are there. -/
def withDetectors (metadata : Entries) : Entries :=
  if metadata.has "detectors_run" then metadata
  else metadata ++ [("detectors_run", .list (a.detectors.map fun d => .text d.name))]

/-- Analyzes a project. -/
def analyze (p : Project) (metadata : Entries) : Outcome where
  project := p
  results := (a.contributions p).filterMap Except.toOption
  settings := a.settings
  metadata := a.withDetectors metadata
  failures := (a.contributions p).filterMap fun c =>
    match c with
    | .error f => some f
    | .ok _ => none

end Analyzer

/-- How far a session has come. -/
inductive Phase where
  | configLoaded
  | done
deriving DecidableEq, Inhabited

/-- The name of a phase. -/
def Phase.name : Phase → String
  | configLoaded => "config_loaded"
  | done => "done"

/-- An analyzer that is used for one project after another. -/
structure Session where
  analyzer : Analyzer
  phase : Phase := .configLoaded

/-- Analyzes the next project of a session. -/
def Session.analyze (s : Session) (p : Project) (metadata : Entries) : Session × Outcome :=
  (⟨s.analyzer, .done⟩, s.analyzer.analyze p metadata)

end CodeSmells
