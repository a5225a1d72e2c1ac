import CodeSmells.File.Path
import CodeSmells.Script.Edges
import CodeSmells.Script.Outline
import CodeSmells.Script.ProjectFile
import CodeSmells.Script.Tree

/-!
The classes and signals of one script. A script is a class of its own, followed by its inner
classes. It is called as it says itself, else like the singleton it is loaded as, else like its
file.
-/

set_option autoImplicit false

namespace CodeSmells.Script

/-- What is known of a script and its project before it is read. -/
structure Setting where
  filePath : String
  /-- The name of the singleton that the script is loaded as. -/
  autoloadName : Option String := none
  /-- The classes of the project, when they are known. -/
  knownClasses : Option (List String) := none
  /-- The names of the project's scripts by their paths. -/
  scriptNames : Keyed String := []

/-- The classes and signals of a script. -/
structure Parsed where
  classes : List Class
  signals : List Signal
deriving Inhabited

/-- The name of a script's class. -/
def scriptName (tree : SyntaxTree) (filePath : String) (autoloadName : Option String) : String :=
  match tree.statements.findSome? fun s => nameAfter? "class_name" (flatten s.declaration.text) with
  | some name => name
  | none => (firstPresent autoloadName (some (pascalCase (Path.ofText filePath).stem))).getD ""

/-- The name behind a parent that is given by its script. -/
def resolveParent (scriptNames : Keyed String) (parent : String) : String :=
  if parent.startsWith "\"" || parent.startsWith "'" then
    let path := resourcePath (String.ofList
      (Text.dropAround (fun c => c == '"' || c == '\'') (Text.trim parent.toList)))
    (firstPresent (scriptNames.get? path)
      (some (pascalCase (Path.ofText path).stem))).getD ""
  else parent

/-- The declared types that a method can call methods on: those of its parameters, then those of
the fields. Only types with a capital count. -/
def aliases (k : ClassOutline) (m : MethodOutline) : List (String × String) :=
  ((m.parameters.reverse.filterMap fun p => p.typeName.map (p.name, ·)) ++ k.fieldTypes).filter
    fun (_, t) => Text.startsUpper t

/-- The method of an outline, with the edges found in its body. -/
def buildMethod (k : ClassOutline) (known : Option (List String)) (m : MethodOutline) :
    Except ModelError Method := do
  let context : Edges.Context :=
    ⟨k.name, m.name, k.methods.map (·.name), k.fields, aliases k m, known⟩
  let (calls, accesses) ← context.edges m.lines
  Method.make m.name m.parameters m.lines calls accesses (some m.startLine)

/-- The class of an outline, its inner classes apart. -/
def buildClass (filePath : String) (autoload : Bool) (known : Option (List String))
    (k : ClassOutline) : Except ModelError Class := do
  let methods ← k.methods.mapM (buildMethod k known)
  let name ← identifier (.text k.name)
  let parent ← k.parent.mapM fun p => identifier (.text p)
  return ⟨name, sortedSet k.fields, methods, parent, sortedSet k.exportedFields, autoload,
    some filePath, sortedSet k.typedFields⟩

mutual

/-- The classes and signals of an outline, its own before those of its inner classes. -/
def buildAll (filePath : String) (autoload : Bool) (known : Option (List String)) :
    ClassOutline → Except ModelError Parsed
  | ⟨name, parent, fields, typed, exported, types, methods, signals, inner⟩ => do
    let own ← buildClass filePath autoload known
      ⟨name, parent, fields, typed, exported, types, methods, signals, inner⟩
    let rest ← buildInner filePath known inner
    return ⟨own :: rest.classes, signals ++ rest.signals⟩

/-- The classes and signals of inner classes, which are never singletons. -/
def buildInner (filePath : String) (known : Option (List String)) :
    List ClassOutline → Except ModelError Parsed
  | [] => .ok ⟨[], []⟩
  | k :: ks => do
    let first ← buildAll filePath false known k
    let rest ← buildInner filePath known ks
    return ⟨first.classes ++ rest.classes, first.signals ++ rest.signals⟩

end

/-- The classes and signals of a script, given its statements. -/
def parseTree (tree : SyntaxTree) (source : String) (s : Setting) : Except ScriptError Parsed := do
  if tree.faulty then throw .syntaxError
  let name := scriptName tree s.filePath s.autoloadName
  let read ← Progress.members (sourceRows source.toList) ⟨{ name }, false⟩ tree.statements
  let outline := { read.outline with parent := read.outline.parent.map (resolveParent s.scriptNames) }
  (buildAll s.filePath s.autoloadName.isSome s.knownClasses outline).mapError .model

/-- The classes and signals of a script. -/
def parse (source : String) (s : Setting) : Except ScriptError Parsed :=
  parseTree (.ofText source) source s

end CodeSmells.Script
