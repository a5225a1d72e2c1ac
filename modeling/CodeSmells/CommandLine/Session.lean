import CodeSmells.Analysis.Run
import CodeSmells.CommandLine.Arguments
import CodeSmells.Config.Load
import CodeSmells.Config.Toml.Writer
import CodeSmells.Console.Layout
import CodeSmells.Console.Markup
import CodeSmells.Report.Files

/-!
What a command prints and writes. Commands read and write a workspace; what they print is gathered
as text. A command that fails says why and leaves the exit code one.
-/

set_option autoImplicit false

namespace CodeSmells.CommandLine

open Console

/-- The version of the program. -/
def version : String := "1.0.0"

/-- The end of a command: its exit code, what it printed and the workspace it leaves. -/
structure Reply where
  exitCode : Nat
  output : String
  workspace : Workspace

/-- What has been printed and written so far. -/
structure Stage where
  output : String := ""
  workspace : Workspace

/-- A step of a command: it goes on, or ends the command early. -/
abbrev Step := Except Reply Stage

namespace Stage

/-- Ends the command. -/
def finish (s : Stage) (exitCode : Nat) : Reply :=
  ⟨exitCode, s.output, s.workspace⟩

/-- Prints lines as they are. -/
def print (s : Stage) (ls : List (List Char)) : Stage :=
  { s with output := s.output ++ printed ls }

/-- Prints a marked-up text; a text whose tags do not fit breaks the command off. -/
def say (s : Stage) (markup : String) : Step :=
  match plainText? markup with
  | some cs => .ok (s.print (wrap terminalWidth cs))
  | none => .error (s.finish 1)

/-- Says why the command fails. The text is marked up. -/
def refuse (s : Stage) (markup : String) : Reply :=
  match s.say ("[red]✗[/red] " ++ markup) with
  | .ok s => s.finish 1
  | .error reply => reply

end Stage

/-- The settings of an analysis: from the given file, from the project's own, or the defaults. -/
def settingsFor (w : Workspace) (project : Path) (config : Option String) :
    Except DocumentError Settings :=
  let load (p : Path) : Except DocumentError Settings := Config.load p.text (w.find? p)
  match config with
  | some path => load (.ofText path)
  | none =>
    let own := project.below (.ofText configFile)
    if (w.find? own).isSome then load own else .ok {}

/-- Why a report is not saved as a whole: a file cannot be written, or it has no text. -/
inductive SaveError where
  | unwritten (error : FileError)
  | textless (message : String)
deriving DecidableEq, Inhabited

/-- Writes a file into a directory. -/
def writeFile (w : Workspace) (directory : Path) (f : Report.OutputFile) :
    Except SaveError Workspace := do
  let text ← f.text.mapError .textless
  (w.write (directory.below (.ofText f.name)) text).mapError .unwritten

/-- Writes files into a directory, in turn up to the first that cannot be written. Those before it
stay. -/
def writeFiles (w : Workspace) (directory : Path) :
    List Report.OutputFile → Workspace × Option SaveError
  | [] => (w, none)
  | f :: rest =>
    match writeFile w directory f with
    | .ok w => writeFiles w directory rest
    | .error e => (w, some e)

/-- Writes the files of a report into a directory of their own. -/
def saveReport (w : Workspace) (directory : Path) (files : List Report.OutputFile) :
    Workspace × Option SaveError :=
  match w.makeDirectory directory with
  | .ok w => writeFiles w directory files
  | .error e => (w, some (.unwritten e))

/-- The summary of an outcome on the terminal. -/
def printSummary (s : Stage) (o : Outcome) : Step := do
  let stats := o.project.statistics
  let content ← match plainText? ("[bold]" ++ o.project.name ++ "[/bold]\n" ++
      "Classes: " ++ toString stats.totalClasses ++ " | Methods: " ++ toString stats.totalMethods ++
      " | Autoloads: " ++ toString stats.autoloads ++ " | Scenes: " ++
      toString stats.totalScenes ++ " | LOC: " ++ toString stats.totalLoc) with
    | some cs => pure cs
    | none => throw (s.finish 1)
  let s := s.print (panel "Project" content)
  let severities : CountTable :=
    ⟨"Smells by severity", "Severity", o.severityCounts.map fun (v, n) => (v.name, n)⟩
  let s := s.print severities.lines
  let types : CountTable := ⟨"Smells by type", "Smell",
    o.typeCounts.mergeSort fun a b => b.2 < a.2 || (a.2 == b.2 && !(b.1 < a.1))⟩
  let s := if o.typeCounts.isEmpty then s else s.print types.lines
  if o.failures.isEmpty then return s
  else s.say ("[yellow]⚠ " ++ toString o.failures.length ++
    " detector failure(s); see the report for details.[/yellow]")

/-- The report format: the one asked for, unless that is empty, else the one of the settings. -/
def formatFor (format : Option String) (settings : Settings) : Except ConfigError ReportFormat :=
  Report.requestedFormat (if isPresent format then format.getD "" else settings.output.format.name)

/-- Analyzes a project and writes the report. The stamp names the time of the run. -/
def runAnalysis (w : Workspace) (stamp : String) (seconds : Quantity) (project : String)
    (config output format : Option String) : Except Reply Reply := do
  let s : Stage := { workspace := w }
  let path := Path.ofText project
  let names ← match w.trail path with
    | .found names .directory => pure names
    | .overlong => throw (s.finish 1)
    | _ => throw (s.refuse ("Project path not found or not a directory: " ++ path.text))
  let settings ← match settingsFor w path config with
    | .ok settings => pure settings
    | .error (.refused e) => throw (s.refuse (escapeTags e.message))
    | .error _ => throw (s.finish 1)
  let format ← match formatFor format settings with
    | .ok f => pure f
    | .error e => throw (s.refuse (escapeTags e.message))
  let s ← s.say ("\n[bold cyan]🔍 Analyzing '" ++ path.text ++ "'...[/bold cyan]\n")
  let outcome ← match (Analyzer.ofSettings settings).run path.text (names.getLast?.getD "")
      (w.files.below names) seconds with
    | .ok outcome => pure outcome
    | .error e => throw (match e.message with
        | .ok message => s.refuse (escapeTags message)
        | .error _ => s.finish 1)
  let directory := (Path.ofText (output.getD settings.output.directory)).below
    (.ofText (Report.directoryName outcome stamp))
  let style : Report.Style := ⟨settings.output.includeDetails, settings.output.groupBySeverity⟩
  let (w, failure) := saveReport w directory (Report.files outcome style format)
  let s := { s with workspace := w }
  match failure with
  | some (.unwritten e) => throw (s.refuse ("Cannot write report: " ++ escapeTags e.message))
  | some (.textless _) => throw (s.finish 1)
  | none => pure ()
  let s ← printSummary s outcome
  let s ← s.say ("\n[green]✓[/green] Analysis complete: " ++ toString outcome.detected.length ++
    " smells detected.")
  let s ← s.say ("[green]✓[/green] Report saved to " ++ directory.text)
  return s.finish 0

/-- Writes the sample configuration. -/
def runGenerate (w : Workspace) (path : String) (force : Bool) : Except Reply Reply := do
  let s : Stage := { workspace := w }
  let path := Path.ofText path
  match w.trail path with
  | .overlong => throw (s.finish 1)
  | .found .. =>
    if !force then throw (s.refuse (path.text ++ " already exists (use --force to overwrite)."))
  | _ => pure ()
  let written := do (← w.makeDirectory path.parent).write path ((Toml.write {}).toOption.getD "")
  match written with
  | .error e => throw (s.refuse ("Cannot write " ++ path.text ++ ": " ++ e.message))
  | .ok w =>
    let s ← Stage.say { workspace := w }
      ("[green]✓[/green] Sample configuration written to " ++ path.text)
    return s.finish 0

/-- One detector of the catalog on a line of its own. -/
def detectorLine (d : Detector) : Except String String := do
  let scopes := String.intercalate ", " (sortedSet (d.scopes.map (·.name)))
  let defaults ← d.defaults.mapM fun (k, v) => return k ++ "=" ++ (← v.describe)
  return d.name ++ (if d.heuristic then " (heuristic)" else "") ++ " [" ++ scopes ++ "] " ++
    d.description ++ " (" ++ String.intercalate ", " defaults ++ ")\n"

/-- How the program is used. -/
def usage : String :=
  "Usage: gdsmell [--version] COMMAND [ARGS]\n\nCommands:\n" ++
    "  analyze PROJECT_PATH [-c CONFIG] [-o OUTPUT] [-f FORMAT] [--verbose]\n" ++
    "  generate-config [PATH] [--force]\n" ++
    "  list-detectors\n"

/-- Runs the command that the arguments ask for. Arguments that do not fit leave the exit code
two. -/
def run (w : Workspace) (stamp : String) (seconds : Quantity) (args : List String) : Reply :=
  let either : Except Reply Reply → Reply
    | .ok reply => reply
    | .error reply => reply
  match Command.ofArguments? args with
  | none => ⟨2, usage, w⟩
  | some .version => ⟨0, "gdsmell v" ++ version ++ "\n", w⟩
  | some .help => ⟨0, usage, w⟩
  | some (.analyze project config output format) =>
    either (runAnalysis w stamp seconds project config output format)
  | some (.generateConfig path force) => either (runGenerate w path force)
  | some .listDetectors =>
    match Catalog.detectors.mapM detectorLine with
    | .ok ls => ⟨0, String.join ls, w⟩
    | .error _ => ⟨1, "", w⟩

end CodeSmells.CommandLine
