import CodeSmells.Text.Scan
import CodeSmells.Model.Parameter

/-!
Names that a project derives from texts: class names from file names, relative paths from resource
paths, and parameters from their declarations.
-/

set_option autoImplicit false

namespace CodeSmells

open Text

/-- A part of a name with its first letter in upper case. -/
def capitalize : List Char → List Char
  | [] => []
  | c :: cs => c.toUpper :: cs

/-- The class name of a script without one: the parts of the file name between characters other
than ASCII letters and digits, each with a capital. -/
def pascalCase (stem : String) : String :=
  let parts := splitAtChars (fun c => !c.isAlphanum) stem.toList
  match parts.flatMap capitalize with
  | [] => "Script"
  | cs => String.ofList cs

/-- The mark of paths within the project. -/
def resourceMark : String := "res://"

/-- The path of a resource relative to the project. -/
def resourcePath (path : String) : String :=
  let cs := (trim path.toList).dropWhile (· == '*')
  let cs := (after? resourceMark.toList cs).getD cs
  String.ofList (cs.dropWhile (· == '/'))

/-- The type of a parameter whose type is left to its default value. -/
def inferredType : String := "inferred"

/-- The parameter of a declaration: a name, an optional type after a colon, and an optional default
after an equals sign. A colon right before the sign leaves the type to the default. -/
def Parameter.ofText? (text : List Char) : Option Parameter :=
  let hasDefault := text.contains '='
  let before := trim (text.takeWhile (· != '='))
  let default := trim ((text.dropWhile (· != '=')).drop 1)
  let inferred := hasDefault && before.getLast? == some ':'
  let head := trim (dropTrailing (· == ':') before)
  let name := trim (head.takeWhile (· != ':'))
  let type := trim ((head.dropWhile (· != ':')).drop 1)
  if isName name then
    some {
      name := String.ofList name
      typeName :=
        if !type.isEmpty then some (String.ofList type)
        else if inferred then some inferredType else none
      defaultValue := if hasDefault then some (String.ofList default) else none }
  else none

end CodeSmells
