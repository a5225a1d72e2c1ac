import CodeSmells.Model.Project

/-!
Where a smell was found, and the scopes that a detector looks at: one method, one class or the
whole project.
-/

set_option autoImplicit false

namespace CodeSmells

/-- The place of a finding; the parts that do not apply are absent. -/
structure Location where
  file : Option String := none
  className : Option String := none
  method : Option String := none
  project : Option String := none
  parent : Option String := none
deriving DecidableEq, Inhabited

namespace Location

/-- The parts that are there, as a table. -/
def toValue (l : Location) : Value :=
  let parts := [("file", l.file), ("class", l.className), ("method", l.method),
    ("project", l.project), ("parent", l.parent)]
  .table (parts.filterMap fun (k, v) => v.map fun s => (k, .text s))

/-- The shortest name of the place: method in its class, class, project or file. -/
def describe (l : Location) : String :=
  if isPresent l.className then
    let k := l.className.getD ""
    if isPresent l.method then k ++ "::" ++ l.method.getD "" else k
  else (firstPresent l.project (firstPresent l.file (some "<project>"))).getD ""

end Location

/-- The three kinds of scope. -/
inductive ScopeKind where
  | perMethod
  | perClass
  | perProject
deriving DecidableEq, Inhabited

/-- The name of a kind of scope. -/
def ScopeKind.name : ScopeKind → String
  | perMethod => "method"
  | perClass => "class"
  | perProject => "project"

/-- What a detector looks at, with the rest of the project where it needs that. -/
inductive Scope where
  | ofMethod (method : Method) (owner : Class) (filePath : Option String)
  | ofClass (subject : Class) (project : Project) (filePath : Option String)
  | ofProject (project : Project)
deriving Inhabited

namespace Scope

/-- The kind of a scope. -/
def kind : Scope → ScopeKind
  | ofMethod .. => .perMethod
  | ofClass .. => .perClass
  | ofProject _ => .perProject

/-- The place that a scope stands for. -/
def location : Scope → Location
  | ofMethod m k path =>
    { file := firstPresent path k.filePath, className := some k.name, method := some m.name }
  | ofClass k _ path => { file := firstPresent path k.filePath, className := some k.name }
  | ofProject p => { project := some p.name }

/-- The scope in words. -/
def describe : Scope → String
  | ofMethod m k _ => "method " ++ k.name ++ "." ++ m.name
  | ofClass k _ _ => "class " ++ k.name
  | ofProject p => "project " ++ p.name

end Scope

end CodeSmells
