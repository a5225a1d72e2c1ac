import CodeSmells.Model.Edge
import CodeSmells.Model.NameSet
import CodeSmells.Model.Parameter
import CodeSmells.Model.SourceLine
import CodeSmells.Text.Case

/-!
Methods. The calls and field accesses of a method are sets.
-/

set_option autoImplicit false

namespace CodeSmells

/-- A method with its declared parameters, its body and the edges found in the body. -/
structure Method where
  name : String
  parameters : List Parameter
  lines : List SourceLine
  calls : List CallEdge
  accesses : List FieldAccess
  startLine : Option Int
deriving DecidableEq, Inhabited

/-- How the names of accessors start. -/
def accessorMarks : List String :=
  ["get_", "set_", "is_", "has_"]

/-- Whether a name, in lower case, starts with one of the given texts. -/
def lowerStartsWith (marks : List String) (name : String) : Bool :=
  marks.any fun m => Text.startsWith m.toList (Text.lower name.toList)

namespace Method

/-- A method from its parts. -/
def make (name : String) (parameters : List Parameter) (lines : List SourceLine)
    (calls : List CallEdge) (accesses : List FieldAccess) (startLine : Option Int) :
    Except ModelError Method := do
  let name ← identifier (.text name)
  return ⟨name, parameters, lines, sortedSet calls, sortedSet accesses, startLine⟩

variable (m : Method)

/-- The number of lines. -/
def loc : Nat :=
  m.lines.length

/-- The names of the parameters in order. -/
def parameterNames : List String :=
  m.parameters.map (·.name)

/-- Named like an accessor, and three lines at most. -/
def isGetterOrSetter : Bool :=
  lowerStartsWith accessorMarks m.name && m.loc ≤ 3

/-- The name with the declared parameters. -/
def signature : String :=
  m.name ++ "(" ++ String.intercalate ", " (m.parameters.map Parameter.signature) ++ ")"

/-- The contents of all lines, with a blank between them. -/
def bodyText : List Char :=
  [' '].intercalate (m.lines.map SourceLine.content)

/-- Whether the method has a call written exactly like this. -/
def callsMethod (callee : String) : Bool :=
  m.calls.any fun e => e.callee == callee

/-- Whether the method accesses a field of a class. -/
def accessesField (owner field : String) : Bool :=
  m.accesses.contains ⟨owner, field⟩

/-- The code lines of the body. -/
def codeLines : List SourceLine :=
  m.lines.filter (·.isCode)

end Method

end CodeSmells
