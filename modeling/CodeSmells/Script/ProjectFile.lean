import CodeSmells.File.Path
import CodeSmells.Keyed
import CodeSmells.Script.Naming
import CodeSmells.Text.Lines

/-!
The file that describes a project: sections in brackets, each with keys and values. It names the
project and lists the scripts that are loaded as global singletons.
-/

set_option autoImplicit false

namespace CodeSmells

open Text

/-- Sections in order of their first key, each with its keys in order. -/
abbrev ProjectFile := Keyed (Keyed String)

namespace ProjectFile

/-- The name in a line that opens a section. -/
def sectionName? (line : List Char) : Option String := do
  let rest ← char? '[' line
  let (name, rest) ← run? (· != ']') rest
  guard (rest == [']'])
  return String.ofList (trim name)

/-- A value without the quotation mark at its end. -/
def withoutLastMark (cs : List Char) : List Char :=
  if cs.getLast? == some '"' then cs.dropLast else cs

/-- A key and its value. Blanks around the equals sign and one quotation mark at either end of the
value do not belong to them. -/
def keyValue? (line : List Char) : Option (String × String) := do
  let (key, rest) ← run? (fun c => isWord c || c == '/') line
  let rest ← char? '=' (skipBlanks rest)
  let value := withoutLastMark (optChar '"' (skipBlanks rest))
  return (String.ofList key, String.ofList value)

/-- What has been read so far, and the section that is open. -/
structure Progress where
  current : String := ""
  sections : ProjectFile := []

/-- Takes in one line without the blanks around it. -/
def Progress.step (s : Progress) (line : List Char) : Progress :=
  if line.isEmpty || line.head? == some ';' then s
  else
    match sectionName? line, keyValue? line with
    | some name, _ => { s with current := name }
    | none, some (key, value) =>
      let entries := (Keyed.get? s.current s.sections).getD []
      { s with sections := Keyed.put s.current (Keyed.put key value entries) s.sections }
    | none, none => s

/-- Reads a project file. -/
def ofText (text : String) : ProjectFile :=
  ((lines text.toList).foldl (fun s l => s.step (trim l)) ({} : Progress)).sections

variable (f : ProjectFile)

/-- The scripts that are loaded as singletons: path in the project and name, in order. Of two names
for one script the last one counts. -/
def autoloads : Keyed String :=
  ((Keyed.get? "autoload" f).getD []).foldl (fun found (name, value) =>
    let path := resourcePath value
    if (Path.ofText path).suffix == ".gd" then Keyed.put path name found else found) []

/-- The name of the project; a project without one is called like its directory. -/
def projectName (directory : String) : String :=
  match ((Keyed.get? "application" f).getD []).get? "config/name" with
  | some name => if name == "" then directory else name
  | none => directory

end ProjectFile

end CodeSmells
