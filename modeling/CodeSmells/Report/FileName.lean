import CodeSmells.Text.Blank

/-!
File names that are safe to write: one path component of ASCII letters, digits, underscores, dots
and hyphens.
-/

set_option autoImplicit false

namespace CodeSmells.Report

/-- The characters that a file name keeps. -/
def isSafe (c : Char) : Bool :=
  c.isAlphanum || c == '_' || c == '.' || c == '-'

/-- One underscore in place of every run of other characters. -/
def replaceUnsafe : List Char → List Char
  | [] => []
  | c :: cs =>
    if isSafe c then c :: replaceUnsafe cs
    else
      match cs with
      | d :: _ => if isSafe d then '_' :: replaceUnsafe cs else replaceUnsafe cs
      | [] => ['_']

/-- A safe file name for a text. -/
def slug (text : String) : String :=
  match Text.dropAround (· == '_') (replaceUnsafe text.toList) with
  | [] => "report"
  | cs => String.ofList cs

end CodeSmells.Report
