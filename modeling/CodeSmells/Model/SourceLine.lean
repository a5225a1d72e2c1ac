import CodeSmells.Model.Error
import CodeSmells.Text.Blank
import CodeSmells.Text.Word

/-!
Lines of source text. A line keeps its indentation, from which the block structure is read; most
checks look at its content, the text without the blanks around it.
-/

set_option autoImplicit false

namespace CodeSmells

/-- The columns that a tabulator counts for. -/
def tabWidth : Nat := 4

/-- The width of the leading spaces and tabulators. -/
def indentOf : List Char → Nat
  | ' ' :: cs => 1 + indentOf cs
  | '\t' :: cs => tabWidth + indentOf cs
  | _ => 0

/-- One physical line of source text, with its number in the file when it is known. -/
structure SourceLine where
  text : String
  number : Option Int
deriving DecidableEq, Inhabited

namespace SourceLine

/-- A line from its text and number; line ends are cut off. -/
def make (text : String) (number : Option Int) : Except ModelError SourceLine :=
  let kept := Text.dropTrailing (fun c => c == '\r' || c == '\n') text.toList
  match number with
  | some n => if n < 1 then .error (.badLineNumber n) else .ok ⟨String.ofList kept, number⟩
  | none => .ok ⟨String.ofList kept, none⟩

variable (line : SourceLine)

/-- The text without the blanks around it. -/
def content : List Char :=
  Text.trim line.text.toList

/-- The columns before the first character. -/
def indent : Nat :=
  indentOf line.text.toList

/-- Nothing but blanks. -/
def isBlank : Bool :=
  line.content.isEmpty

/-- The content is a comment from its start. -/
def isComment : Bool :=
  match line.content with
  | '#' :: _ => true
  | '/' :: '/' :: _ => true
  | _ => false

/-- Neither blank nor a comment. -/
def isCode : Bool :=
  !line.isBlank && !line.isComment

/-- Whether a text occurs in the line. -/
def holds (needle : String) : Bool :=
  Text.contains line.text needle

/-- A code line in which one of the two suspending words stands. -/
def suspends : Bool :=
  line.isCode && Text.hasWord ["yield", "await"] line.content

end SourceLine

end CodeSmells
