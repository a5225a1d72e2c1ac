import CodeSmells.Value.Basic

/-!
Why an entity of the code model cannot be built.
-/

set_option autoImplicit false

namespace CodeSmells

/-- The reasons for which a description of code is refused. -/
inductive ModelError where
  | badIdentifier (got : Value)
  | badLineText (kind : String)
  | badLineNumber (got : Int)
  | incompleteCall
  | incompleteAccess
  | badParameter (method : String) (got : Value)
  | badCall (method : String) (got : Value)
  | badAccess (method : String) (got : Value)
  | notIdentifiers (what : String)
  | badMethod (owner : String) (got : Value)
  | badClass (project : String) (got : Value)
  | unflaggedAutoload (name : String)
  | foreignAutoload (name : String)
  /-- A value that cannot be a member of a set or be walked through. -/
  | unusable (got : Value)
deriving Inhabited

namespace ModelError

/-- The wording of each reason. A number that is too long to be shown takes the place of the
reason. -/
def message : ModelError → Except String String
  | badIdentifier got => return "Identifier must be a non-empty string, got " ++ (← got.literal)
  | badLineText kind => return "Source line text must be a string, got " ++ kind
  | badLineNumber got => return "Line numbers start at 1, got " ++ (← writeWhole got)
  | incompleteCall => return "Call edges need both a caller and a callee"
  | incompleteAccess => return "Field accesses need both an owner and a field name"
  | badParameter method got =>
    return "Method " ++ method ++ " has a malformed parameter: " ++ (← got.literal)
  | badCall method got =>
    return "Method " ++ method ++ " has a malformed call edge: " ++ (← got.literal)
  | badAccess method got =>
    return "Method " ++ method ++ " has a malformed field access: " ++ (← got.literal)
  | notIdentifiers what => return what ++ " must be an iterable of identifiers"
  | badMethod owner got =>
    return "Class " ++ owner ++ " has a malformed method: " ++ (← got.literal)
  | badClass project got =>
    return "Project " ++ project ++ " has a malformed class: " ++ (← got.literal)
  | unflaggedAutoload name => return "Autoload " ++ name ++ " is not flagged as an autoload"
  | foreignAutoload name => return "Autoload " ++ name ++ " is not one of the project classes"
  | unusable got => return "unusable value of kind " ++ got.kindName

end ModelError

end CodeSmells
