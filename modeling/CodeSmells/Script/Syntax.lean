import CodeSmells.Script.Cursor

/-!
The statements of a script as far as the code model needs them: functions, classes and signals with
their names, parameters and bodies, and every other statement as its text.
-/

set_option autoImplicit false

namespace CodeSmells.Script

/-- The kinds of statements that are told apart. -/
inductive StatementKind where
  | function
  | innerClass
  | other
deriving DecidableEq, Inhabited

/-- A stretch of source text. -/
structure Span where
  start : Place
  stop : Place
deriving DecidableEq, Inhabited

/-- A name and the row on which it stands. -/
structure NameAt where
  name : String
  row : Nat
deriving DecidableEq, Inhabited

/-- What a statement declares. The head is its text up to the body. -/
structure Declaration where
  kind : StatementKind
  text : String
  head : String
  row : Nat
  name : Option NameAt
  parameters : List String
  body : Option Span
deriving DecidableEq, Inhabited

/-- A statement with the statements inside it. -/
inductive Statement where
  | mk (declaration : Declaration) (inner : List Statement)
deriving Inhabited

namespace Statement

/-- What the statement declares. -/
def declaration : Statement → Declaration
  | mk d _ => d

/-- The statements inside the statement. -/
def inner : Statement → List Statement
  | mk _ inner => inner

mutual

/-- The declarations of a statement and of all statements inside it. -/
def declarations : Statement → List Declaration
  | mk d inner => d :: allDeclarations inner

/-- The declarations of statements and of all statements inside them. -/
def allDeclarations : List Statement → List Declaration
  | [] => []
  | s :: rest => declarations s ++ allDeclarations rest

end

end Statement

/-- The statements of a script, whether some part of it could not be read, and the names of the
classes inside it, as far as they can be made out. -/
structure SyntaxTree where
  faulty : Bool
  statements : List Statement
  classNames : List String
deriving Inhabited

end CodeSmells.Script
