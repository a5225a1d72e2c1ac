import CodeSmells.Script.Token

/-!
A place in a script with the blocks that are open there. The next token depends on what may come:
where a statement may end, a line break ends it, and elsewhere a line break is a blank like others.
Where a block may start or end, the indentation of the next line decides, be it a comment or not. A
comment that stands exactly as deep as the lines around the innermost block does not end the block.
-/

set_option autoImplicit false

namespace CodeSmells.Script

/-- A place in a source text, counted from nought in characters. -/
structure Place where
  offset : Nat
  row : Nat
  column : Nat
deriving DecidableEq, Inhabited

/-- The first place of a text. -/
def Place.start : Place :=
  ⟨0, 0, 0⟩

/-- The place after a character. -/
def Place.after (p : Place) (c : Char) : Place :=
  if c == '\n' then ⟨p.offset + 1, p.row + 1, 0⟩ else ⟨p.offset + 1, p.row, p.column + 1⟩

/-- What is left of a script, where it starts, where the last token ended, and the indentations of
the open blocks, the innermost first. -/
structure Cursor where
  rest : List Char
  place : Place
  last : Place
  levels : List Nat
deriving DecidableEq, Inhabited

/-- The marks of the line structure that may come next. -/
structure Allowed where
  lineEnd : Bool := false
  deeper : Bool := false
  shallower : Bool := false
  close : Bool := false
  /-- A comma goes on with the statement, so that it closes nothing. -/
  comma : Bool := false
deriving DecidableEq, Inhabited

namespace Allowed

/-- Inside a statement. -/
def nothing : Allowed :=
  {}

/-- Where a statement may end. -/
def statementEnd : Allowed :=
  { lineEnd := true, close := true }

/-- Where a statement may end, or go on after a comma. -/
def listEnd : Allowed :=
  { statementEnd with comma := true }

/-- Where the block around may end. -/
def blockEnd : Allowed :=
  { shallower := true, close := true }

/-- After the colon of a header. -/
def body : Allowed :=
  { lineEnd := true, deeper := true }

/-- Where only a deeper block counts. -/
def block : Allowed :=
  { deeper := true }

/-- Where a statement may end if the flag says so. -/
def endIf (ends : Bool) : Allowed :=
  if ends then statementEnd else nothing

end Allowed

/-- What lies before the next character that is not blank: whether a line breaks there, and how far
that character is indented. -/
structure Layout where
  broken : Bool
  indent : Nat
  next : Option Char
deriving DecidableEq, Inhabited

/-- The columns that a tabulator counts for in the indentation of blocks. -/
def blockTabWidth : Nat := 8

/-- Indentations are remembered modulo this number. -/
def levelBound : Nat := 256

/-- The layout of a text, given what was seen before. A backslash joins the next line; one that ends
no line leaves no layout. The end of the text breaks the line. -/
def layoutFrom (broken : Bool) (indent : Nat) : List Char → Option Layout
  | [] => some ⟨true, indent, none⟩
  | '\\' :: '\r' :: '\n' :: cs => layoutFrom broken indent cs
  | '\\' :: '\n' :: cs => layoutFrom broken indent cs
  | c :: cs =>
    if c == '\n' then layoutFrom true 0 cs
    else if c == ' ' then layoutFrom broken (indent + 1) cs
    else if c == '\t' then layoutFrom broken (indent + blockTabWidth) cs
    else if c == '\r' || c == '\x0c' then layoutFrom broken 0 cs
    else if c == '\\' then none
    else some ⟨broken, indent, some c⟩

/-- Characters between tokens. -/
def isFiller (c : Char) : Bool :=
  c == ' ' || c == '\t' || c == '\r' || c == '\n' || c == '\x0b' || c == '\x0c' ||
    c == '\ufeff' || c == '\u2060' || c == '\u200b'

/-- How many characters at the start of a text are blanks or joined line ends. -/
def fillerLength : List Char → Nat
  | '\\' :: '\r' :: '\n' :: cs => 3 + fillerLength cs
  | '\\' :: '\n' :: cs => 2 + fillerLength cs
  | c :: cs => if isFiller c then 1 + fillerLength cs else 0
  | [] => 0

/-- A token with the cursors before and after it. -/
structure Step where
  token : Token
  start : Cursor
  after : Cursor
deriving Inhabited

namespace Cursor

/-- The start of a script. -/
def ofText (source : List Char) : Cursor :=
  ⟨source, .start, .start, []⟩

/-- The indentation of the innermost block. -/
def level (c : Cursor) : Nat :=
  c.levels.head?.getD 0

/-- Passes over characters that belong to no token. -/
def skip (c : Cursor) (n : Nat) : Cursor :=
  { c with rest := c.rest.drop n, place := (c.rest.take n).foldl Place.after c.place }

/-- Passes over the characters of a token. -/
def take (c : Cursor) (n : Nat) : Cursor :=
  let next := c.skip n
  { next with last := next.place }

/-- Leaves the innermost block. -/
def leave (c : Cursor) : Cursor :=
  { c with levels := c.levels.tail }

/-- Whether a character closes the blocks inside the brackets around. -/
def closes (allowed : Allowed) (c : Char) : Bool :=
  allowed.close && ([')', ']', '\x7d'].contains c || (c == ',' && !allowed.comma))

/-- A comment that is indented like the lines around the innermost block. -/
def isOuterComment (c : Cursor) (l : Layout) : Bool :=
  l.next == some '#' && l.indent == c.leave.level

/-- The mark of the line structure that comes next, if one may come. -/
def mark? (c : Cursor) (allowed : Allowed) : Option Step := do
  let l ← layoutFrom false 0 c.rest
  let here := { c with last := c.place }
  if l.broken && allowed.deeper && c.level < l.indent then
    some ⟨.deeper, here, { here with levels := l.indent % levelBound :: c.levels }⟩
  else if l.broken && allowed.shallower && l.indent < c.level && !c.isOuterComment l then
    some ⟨.shallower, here, here.leave⟩
  else if l.broken && allowed.lineEnd then some ⟨.lineEnd, here, here⟩
  else if l.next.any (closes allowed) then some ⟨.close, here, here⟩
  else none

/-- The next token; the flag tells whether a value may start here. Every comment on the way asks
anew for a mark, so that the first line that is no comment is not the only one that counts. -/
def next (c : Cursor) (value : Bool) (allowed : Allowed) : Step :=
  match c.mark? allowed with
  | some step => step
  | none =>
    let here := c.skip (fillerLength c.rest)
    match _h : here.rest with
    | [] => ⟨.finish, here, here⟩
    | '#' :: cs => (here.skip (1 + (cs.takeWhile (· != '\n')).length)).next value allowed
    | cs =>
      let (token, n) := tokenAt value cs
      ⟨token, here, here.take n⟩
termination_by c.rest.length
decreasing_by
  have hle : (c.rest.drop (fillerLength c.rest)).length ≤ c.rest.length := by simp
  have hlt : (here.rest.drop (1 + (cs.takeWhile (· != '\n')).length)).length < here.rest.length := by
    rw [_h]
    simp only [List.length_drop, List.length_cons]
    omega
  exact Nat.lt_of_lt_of_le hlt hle

/-- The text from one place to a later one. -/
def textUpTo (c : Cursor) (stop : Place) : String :=
  String.ofList (c.rest.take (stop.offset - c.place.offset))

end Cursor

end CodeSmells.Script
