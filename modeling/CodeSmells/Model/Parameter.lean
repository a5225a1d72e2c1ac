import CodeSmells.Model.Name

/-!
The parameters of a method.
-/

set_option autoImplicit false

namespace CodeSmells

/-- A parameter with its optional type and default value, both as they are written. -/
structure Parameter where
  name : String
  typeName : Option String
  defaultValue : Option String
deriving DecidableEq, Inhabited

namespace Parameter

/-- A parameter; a blank type is no type. -/
def make (name : Value) (typeName defaultValue : Option String) :
    Except ModelError Parameter := do
  let name ← identifier name
  return ⟨name, typeName.filter fun t => Text.trimmed t != "", defaultValue⟩

/-- The parameter as it is declared. -/
def signature (p : Parameter) : String :=
  p.name ++ (p.typeName.map (": " ++ ·)).getD "" ++ (p.defaultValue.map (" = " ++ ·)).getD ""

end Parameter

end CodeSmells
