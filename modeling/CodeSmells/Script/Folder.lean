import CodeSmells.File.Tree
import CodeSmells.Script.Classes
import CodeSmells.Script.Scene

/-!
The project in a directory. Scripts and scenes are taken in the order of their paths. A script that
cannot be read or does not follow the grammar is skipped; the names in one that was read still count
as classes of the project. A reader can be used again, and each reading starts its counts anew.
-/

set_option autoImplicit false

namespace CodeSmells.Script

/-- Directories whose files do not belong to the project. -/
def skippedDirectories : List String :=
  [".godot", ".import", ".git", ".mono", "addons", "android", "build", "export", "node_modules"]

/-- Whether files below these directories are left out. -/
def isSkipped (directories : List String) : Bool :=
  directories.any fun d => skippedDirectories.contains d || d.startsWith "."

/-- A file of a project: its path, and its text if it has one. -/
structure ProjectSource where
  path : String
  text : Option String
deriving DecidableEq, Inhabited

/-- The files of a project with a given suffix, in the order of their paths. -/
def filesWith (suffix : String) (files : FileTree) : List ProjectSource :=
  files.sorted.filterMap fun e =>
    match e.content with
    | .directory => none
    | .file _ =>
      if (Path.mk "" e.names).suffix == suffix && !isSkipped e.names.dropLast then
        some ⟨String.intercalate "/" e.names, e.content.text?⟩
      else none

/-- A script that could be read, with its statements. -/
structure ScriptSource where
  path : String
  text : String
  tree : SyntaxTree

/-- The names of the scripts' classes by their paths. -/
def scriptNames (autoloads : Keyed String) (scripts : List ScriptSource) : Keyed String :=
  scripts.map fun s => (s.path, scriptName s.tree s.path (autoloads.get? s.path))

/-- What a script is read against: the names of all classes of the project. -/
def settingFor (autoloads : Keyed String) (scripts : List ScriptSource) (path : String) : Setting :=
  let names := scriptNames autoloads scripts
  { filePath := path
    autoloadName := autoloads.get? path
    knownClasses := some (names.map (·.2) ++ autoloads.map (·.2) ++ scripts.flatMap (·.tree.classNames))
    scriptNames := names }

/-- The scenes of a project; files that cannot be read are left out. -/
def scenesOf (files : FileTree) : Except ModelError (List Scene) :=
  (filesWith ".tscn" files).filterMap (fun s => s.text.map fun text => (s.path, text))
    |>.mapM fun (path, text) => Scene.ofText text path

/-- The description of the project, empty when it is missing or cannot be read. -/
def projectFileOf (files : FileTree) : ProjectFile :=
  .ofText (((files.at? ["project.godot"]).bind Content.text?).getD "")

/-- What the scripts taken so far have given. The autoloads are the own classes of the scripts that
are loaded as singletons. -/
structure Harvest where
  classes : List Class := []
  autoloads : List Class := []
  signals : List Signal := []

/-- A reader of the project in one directory, with the grammar it goes by. It counts the scripts
that its last reading took and skipped. -/
structure Reader where
  grammar : String → SyntaxTree
  directory : String
  parsed : Nat := 0
  skipped : Nat := 0

namespace Reader

/-- Opens scripts; those that cannot be read are skipped. -/
def openScripts (r : Reader) : List ProjectSource → List ScriptSource × Reader
  | [] => ([], r)
  | s :: rest =>
    match s.text with
    | none => openScripts { r with skipped := r.skipped + 1 } rest
    | some text =>
      let (scripts, after) := r.openScripts rest
      (⟨s.path, text, r.grammar text⟩ :: scripts, after)

/-- Takes in one script; one that does not follow the grammar is skipped. -/
def takeScript (autoloads : Keyed String) (setting : String → Setting) :
    Reader × Harvest → ScriptSource → Reader × Harvest
  | (r, h), s =>
    match parseTree s.tree s.text (setting s.path) with
    | .error _ => ({ r with skipped := r.skipped + 1 }, h)
    | .ok p =>
      ({ r with parsed := r.parsed + 1 },
       { classes := h.classes ++ p.classes
         autoloads := h.autoloads ++
           if (autoloads.get? s.path).isSome then p.classes.head?.toList else []
         signals := h.signals ++ p.signals })

/-- Reads the project from the files of the directory. The counts start anew, and they stand also
when a scene makes the reading fail. -/
def read (r : Reader) (files : FileTree) : Except ModelError Project × Reader :=
  let description := projectFileOf files
  let autoloads := description.autoloads
  let (scripts, opened) :=
    openScripts { r with parsed := 0, skipped := 0 } (filesWith ".gd" files)
  let (after, h) :=
    scripts.foldl (takeScript autoloads (settingFor autoloads scripts)) (opened, {})
  let project := do
    let scenes ← scenesOf files
    Project.make h.classes scenes h.autoloads h.signals (description.projectName r.directory)
  (project, after)

end Reader

/-- A project with the numbers of scripts that were taken and skipped. -/
structure ProjectReading where
  project : Project
  parsed : Nat
  skipped : Nat

/-- Reads the project in a directory once. -/
def readProject (directory : String) (files : FileTree) : Except ModelError ProjectReading :=
  let (project, r) := Reader.read ⟨.ofText, directory, 0, 0⟩ files
  project.map fun project => ⟨project, r.parsed, r.skipped⟩

end CodeSmells.Script
