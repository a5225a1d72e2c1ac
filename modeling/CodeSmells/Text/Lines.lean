/-!
Lines of a text. Reading a file turns the line ends of every convention into line feeds; splitting
a text into lines also cuts at the other characters that end a line. A line end at the very end
opens no further line.
-/

set_option autoImplicit false

namespace CodeSmells.Text

/-- The characters that end a line. -/
def isLineEnd (c : Char) : Bool :=
  let n := c.toNat
  (10 ≤ n && n ≤ 13) || (28 ≤ n && n ≤ 30) || n == 0x85 || n == 0x2028 || n == 0x2029

/-- Splits into lines; `line` holds the characters of the current line reversed. -/
def linesFrom (line : List Char) : List Char → List (List Char)
  | [] => if line.isEmpty then [] else [line.reverse]
  | '\r' :: '\n' :: cs => line.reverse :: linesFrom [] cs
  | c :: cs => if isLineEnd c then line.reverse :: linesFrom [] cs else linesFrom (c :: line) cs

/-- The lines of a text. -/
def lines (cs : List Char) : List (List Char) :=
  linesFrom [] cs

/-- Line feeds in place of the other two common line ends. -/
def unifyNewlines : List Char → List Char
  | [] => []
  | '\r' :: '\n' :: cs => '\n' :: unifyNewlines cs
  | c :: cs => (if c == '\r' then '\n' else c) :: unifyNewlines cs

/-- The rows of a source text: what stands between its line feeds. -/
def rows (cs : List Char) : List (List Char) :=
  cs.splitOnP (· == '\n')

end CodeSmells.Text
