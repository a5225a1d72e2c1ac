import CodeSmells.Text.Case

/-!
Spellings of configuration keys. A key may be written with capitals in place of underscores.
-/

set_option autoImplicit false

namespace CodeSmells.Config

/-- Puts an underscore before every ASCII capital that follows an ASCII small letter or digit. -/
def separateWords (before : Option Char) : List Char → List Char
  | [] => []
  | c :: cs =>
    let joint := c.isUpper && match before with
      | some b => b.isLower || b.isDigit
      | none => false
    (if joint then ['_', c] else [c]) ++ separateWords (some c) cs

/-- The one spelling of a key that the program knows it by. -/
def normalizeKey (key : String) : String :=
  String.ofList (Text.lower (separateWords none key.toList))

end CodeSmells.Config
