import CodeSmells.File.Path
import CodeSmells.Model.Project
import CodeSmells.Script.Naming
import CodeSmells.Text.Lines

/-!
Scenes from their text. A scene file lists external resources, then nodes with their properties; the
first node without a parent is the root, and the scene's script is the one set on the root.
-/

set_option autoImplicit false

namespace CodeSmells

open Text

namespace Scene

/-- A value after an equals sign: a text in quotation marks, or all up to a blank or bracket. An
empty text in quotation marks is an empty value. -/
def attributeValue? (cs : List Char) : Option (List Char × List Char) :=
  let quoted := (char? '"' cs).bind fun rest =>
    (char? '"' (rest.dropWhile (· != '"'))).map fun tail => (rest.takeWhile (· != '"'), tail)
  quoted.or (run? (fun c => !isBlank c && c != ']') cs)

/-- An attribute of a header: a word, an equals sign and a value. -/
def assignment : Pattern (String × String) := fun _ cs => do
  let (key, rest) ← run? isWord cs
  let rest ← char? '=' (skipBlanks rest)
  let (value, rest) ← attributeValue? (skipBlanks rest)
  return ((String.ofList key, String.ofList value), rest)

/-- The attributes of a header; of those with the same name the last one counts. -/
abbrev Attributes := List (String × String)

/-- The value of an attribute. -/
def attributeOf? (as : Attributes) (key : String) : Option String :=
  (as.reverse.find? fun a => a.1 == key).map (·.2)

/-- The attributes of a header line of the given kind. -/
def header? (kind : String) (line : List Char) : Option Attributes := do
  let rest ← after? ('[' :: kind.toList) line
  let body ← someBlanks? rest
  guard (body.getLast? == some ']')
  return assignment.findAll body.dropLast

/-- The identifier in the property that sets a script. -/
def scriptProperty? (line : List Char) : Option String := do
  let rest ← after? "script".toList line
  let rest ← char? '=' (skipBlanks rest)
  let rest ← after? "ExtResource(".toList (skipBlanks rest)
  let rest := optChar '"' (skipBlanks rest)
  let (id, rest) ← run? (fun c => c != '"' && c != ')' && !isBlank c) rest
  let _ ← char? ')' (skipBlanks (optChar '"' rest))
  return String.ofList id

/-- What a line of a scene file is. -/
inductive SceneLine where
  | resource (attributes : Attributes)
  | node (attributes : Attributes)
  | otherHeader
  | script (id : String)
  | other
deriving DecidableEq, Inhabited

/-- Reads a line without the blanks around it. -/
def SceneLine.ofText (line : List Char) : SceneLine :=
  match header? "ext_resource" line, header? "node" line with
  | some as, _ => .resource as
  | none, some as => .node as
  | none, none =>
    if line.head? == some '[' then .otherHeader
    else
      match scriptProperty? line with
      | some id => .script id
      | none => .other

/-- The script that a resource is: its identifier and its path in the project. -/
def scriptResource? (as : Attributes) : Option (String × String) := do
  guard (attributeOf? as "type" == some "Script")
  return (← attributeOf? as "id", resourcePath (← attributeOf? as "path"))

/-- What has been read of a scene so far. Later scripts stand first in `scripts`. -/
structure Progress where
  scripts : List (String × String) := []
  root : Option String := none
  children : List String := []
  script : Option String := none
  inRoot : Bool := false

/-- Takes in one line. -/
def Progress.step (s : Progress) : SceneLine → Progress
  | .resource as => { s with scripts := (scriptResource? as).toList ++ s.scripts }
  | .node as =>
    let name := (attributeOf? as "name").getD ""
    if (attributeOf? as "parent").isNone && s.root.isNone then
      { s with root := some name, inRoot := true }
    else { s with children := s.children ++ [name], inRoot := false }
  | .otherHeader => { s with inRoot := false }
  | .script id =>
    if s.inRoot then { s with script := (s.scripts.find? fun e => e.1 == id).map (·.2) } else s
  | .other => s

/-- The lines of a scene file. -/
def sceneLines (source : String) : List SceneLine :=
  (lines source.toList).map fun l => .ofText (trim l)

/-- The scene in a file. -/
def ofText (source filePath : String) : Except ModelError Scene :=
  let s := (sceneLines source).foldl Progress.step {}
  Scene.make (Path.ofText filePath).stem s.root s.children s.script (some filePath)

end Scene

end CodeSmells
