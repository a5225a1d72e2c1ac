import CodeSmells.Model.SourceLine
import CodeSmells.Script.Syntax
import CodeSmells.Text.Lines

/-!
The lines of a function's body, given the rows of the script, the indentation of the function and
the stretch of the body. What follows the header on its own row is the first line. Comments after
the last statement belong to the body as long as they are indented deeper than the function.
-/

set_option autoImplicit false

namespace CodeSmells.Script

open Text

/-- Nothing but blanks. -/
def isBlankRow (row : List Char) : Bool :=
  (trim row).isEmpty

/-- A comment from its first character that is not blank. -/
def isCommentRow (row : List Char) : Bool :=
  (trim row).head? == some '#'

/-- A comment that is indented deeper than the function. -/
def isDeepComment (indent : Nat) (row : List Char) : Bool :=
  isCommentRow row && indent < indentOf row

/-- The rows of a source text, without the carriage returns at their ends. -/
def sourceRows (source : List Char) : List (List Char) :=
  (rows source).map (dropTrailing (· == '\r'))

/-- The last row of a stretch; one that ends before the first character of a row does not reach
it. -/
def Span.lastRow (s : Span) : Nat :=
  if s.stop.column == 0 && s.start.row < s.stop.row then s.stop.row - 1 else s.stop.row

/-- Extends a body that ends at the row `last` over the deeper comments in the rows that follow,
the first of which has the number `row`. -/
def extendOver (indent row last : Nat) : List (List Char) → Nat
  | [] => last
  | r :: rs =>
    if isBlankRow r then extendOver indent (row + 1) last rs
    else if isDeepComment indent r then extendOver indent (row + 1) row rs
    else last

/-- Spaces and the control characters for tabulators and line ends. Blanks that take more than one
byte are not among them. -/
def isByteBlank (c : Char) : Bool :=
  c == ' ' || (9 ≤ c.toNat && c.toNat ≤ 13)

/-- Whether a body starts on the row of its header. -/
def startsInline (rs : List (List Char)) (body : Span) : Bool :=
  !(((rs[body.start.row]?).getD []).take body.start.column).all isByteBlank

/-- The rows from `first` to `last` with their numbers. -/
def numberedRows (rs : List (List Char)) (first last : Nat) : List (Nat × List Char) :=
  ((List.range rs.length).zip rs).filter fun (n, _) => first ≤ n && n ≤ last

/-- Whether a row at the end of a body is no part of it. -/
def isOutside (indent : Nat) (row : List Char) : Bool :=
  isBlankRow row || (isCommentRow row && indentOf row ≤ indent)

/-- The part of the body on the row of the header, at the indentation of a body. -/
def inlineLine (rs : List (List Char)) (indent : Nat) (body : Span) : List SourceLine :=
  let text := trim (((rs[body.start.row]?).getD []).drop body.start.column)
  if text.isEmpty || text.head? == some '#' then []
  else
    [⟨String.ofList (List.replicate (indent + tabWidth) ' ' ++ text),
      some ((body.start.row + 1 : Nat) : Int)⟩]

/-- The full rows of a body with their numbers, blank ones included. -/
def bodyRows (rs : List (List Char)) (indent : Nat) (body : Span) : List (Nat × List Char) :=
  let first := if startsInline rs body then body.start.row + 1 else body.start.row
  let last := extendOver indent (body.lastRow + 1) body.lastRow (rs.drop (body.lastRow + 1))
  ((numberedRows rs first last).reverse.dropWhile fun (_, r) => isOutside indent r).reverse

/-- The lines of a body. -/
def bodyLines (rs : List (List Char)) (indent : Nat) (body : Span) : List SourceLine :=
  (if startsInline rs body then inlineLine rs indent body else []) ++
    ((bodyRows rs indent body).filter fun (_, r) => !isBlankRow r).map fun (n, r) =>
      ⟨String.ofList r, some ((n + 1 : Nat) : Int)⟩

end CodeSmells.Script
