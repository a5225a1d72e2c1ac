import CodeSmells.Model.Error
import CodeSmells.Text.Blank

/-!
Names of classes, methods, fields and parameters: texts that are not empty once the blanks around
them are removed.
-/

set_option autoImplicit false

namespace CodeSmells

/-- The name that a value stands for. -/
def identifier : Value → Except ModelError String
  | .text s =>
    if Text.trimmed s == "" then .error (.badIdentifier (.text s)) else .ok (Text.trimmed s)
  | v => .error (.badIdentifier v)

/-- Names that start with an underscore are private. -/
def isPrivateName (name : String) : Bool :=
  name.toList.head? == some '_'

end CodeSmells
