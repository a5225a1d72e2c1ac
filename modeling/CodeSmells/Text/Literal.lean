import CodeSmells.Text.Blank

/-!
String literals and comments in a line of code. A literal runs from a quotation mark to the next
one of the same kind; a backslash takes the character after it along, unless that is a line feed.
A quotation mark that opens no literal is a plain character. A comment starts at the first `#`
outside the literals.
-/

set_option autoImplicit false

namespace CodeSmells.Text

/-- The rest of a literal after its opening mark `quote`, the closing mark included. -/
def literalBody? (quote : Char) : List Char → Option (List Char)
  | [] => none
  | '\\' :: c :: cs => if c == '\n' then none else (literalBody? quote cs).map ('\\' :: c :: ·)
  | c :: cs =>
    if c == quote then some [c]
    else if c == '\\' then none
    else (literalBody? quote cs).map (c :: ·)

/-- The literal that the text starts with. -/
def literal? : List Char → Option (List Char)
  | [] => none
  | c :: cs => if c == '"' || c == '\'' then (literalBody? c cs).map (c :: ·) else none

/-- A literal, marks included, or a single character outside the literals. -/
inductive Piece where
  | literal (cs : List Char)
  | plain (c : Char)
deriving DecidableEq

/-- The pieces of a text whose first `skip` characters belong to an earlier literal. -/
def piecesFrom : Nat → List Char → List Piece
  | _, [] => []
  | skip + 1, _ :: cs => piecesFrom skip cs
  | 0, c :: cs =>
    match literal? (c :: cs) with
    | some lit => .literal lit :: piecesFrom (lit.length - 1) cs
    | none => .plain c :: piecesFrom 0 cs

/-- The pieces of a text from left to right. -/
def pieces (cs : List Char) : List Piece :=
  piecesFrom 0 cs

namespace Piece

/-- The characters of a piece. -/
def chars : Piece → List Char
  | literal cs => cs
  | plain c => [c]

/-- A piece with the body of a literal left out. -/
def hollow : Piece → List Char
  | literal _ => ['"', '"']
  | plain c => [c]

/-- The sign that starts a comment. -/
def isCommentSign : Piece → Bool
  | plain c => c == '#'
  | literal _ => false

end Piece

/-- The text with an empty literal in place of every literal. -/
def stripLiterals (cs : List Char) : List Char :=
  (pieces cs).flatMap Piece.hollow

/-- The text before its first `#`. -/
def stripComment (cs : List Char) : List Char :=
  cs.takeWhile (· != '#')

/-- The text before its first `#` that is not inside a literal. -/
def stripTrailingComment (cs : List Char) : List Char :=
  ((pieces cs).takeWhile (!·.isCommentSign)).flatMap Piece.chars

/-- The code of a line: no bodies of literals, no comment and no blanks around it. -/
def codeOf (cs : List Char) : List Char :=
  trim (stripComment (stripLiterals cs))

end CodeSmells.Text
