import CodeSmells.Model.Class
import CodeSmells.Number.Binary
import CodeSmells.Text.Literal
import CodeSmells.Text.Scan

/-!
Measures of the lines of a method: how many lines decide, how many suspend, and how many are
comments.
-/

set_option autoImplicit false

namespace CodeSmells

/-- The words that make a line a decision. -/
def decisionWords : List String :=
  ["if", "elif", "while", "for", "match", "switch", "and", "or"]

/-- The operators that make a line a decision. -/
def decisionOperator : Text.Pattern Unit
  | _, '&' :: '&' :: rest => some ((), rest)
  | _, '|' :: '|' :: rest => some ((), rest)
  | _, _ => none

/-- Whether code holds a decision word or operator. -/
def decides (code : List Char) : Bool :=
  Text.hasWord decisionWords code || decisionOperator.occurs code

/-- One more than the number of code lines that decide. -/
def cyclomaticComplexity (lines : List SourceLine) : Nat :=
  1 + lines.countP fun l => l.isCode && decides (Text.codeOf l.content)

/-- The number of code lines that suspend. -/
def suspensionCount (lines : List SourceLine) : Nat :=
  lines.countP (·.suspends)

/-- How many lines of a body are comments: per line that is not blank, and per code line. -/
structure CommentStats where
  commentLines : Nat
  codeLines : Nat
  totalLines : Nat
  density : Quantity
  ratio : Quantity

/-- A quotient of counts, nought when there is nothing to divide by. -/
def shareOf (part : Nat) : Nat → Quantity
  | 0 => .finite 0
  | whole + 1 => .ratio part (whole + 1)

/-- The comment statistics of some lines. -/
def commentStats (lines : List SourceLine) : CommentStats :=
  let comments := lines.countP (·.isComment)
  let code := lines.countP (·.isCode)
  { commentLines := comments
    codeLines := code
    totalLines := comments + code
    density := shareOf comments (comments + code)
    ratio := shareOf comments code }

/-- The comment statistics of all methods of a class. -/
def Class.commentStats (k : Class) : CommentStats :=
  CodeSmells.commentStats (k.methods.flatMap (·.lines))

end CodeSmells
