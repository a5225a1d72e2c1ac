import CodeSmells.Model.SourceLine

/-!
The block structure of a body, read off the indentation of its code lines.
-/

set_option autoImplicit false

namespace CodeSmells

/-- Whether a content opens a conditional or a loop with a condition. -/
def isConditionalHeader (content : List Char) : Bool :=
  Text.startsWithWord ["if", "elif", "else", "match", "while"] content

/-- Walks back through the less indented ancestors of a line with the indent `current`; the lines
before it are given nearest first. -/
def insideConditional (current : Nat) : List SourceLine → Bool
  | [] => false
  | line :: earlier =>
    if line.isCode && line.indent < current then
      isConditionalHeader line.content || insideConditional line.indent earlier
    else insideConditional current earlier

/-- Whether the line at an index stands in the body of a conditional. Blank lines and comments
open no block. -/
def enclosingConditional (lines : List SourceLine) (index : Nat) : Bool :=
  match lines[index]? with
  | some line => insideConditional line.indent (lines.take index).reverse
  | none => false

/-- The same at an index of any sign. Nothing encloses the first line, nor a place outside the
lines. -/
def enclosingConditionalAt (lines : List SourceLine) (index : Int) : Bool :=
  if index ≤ 0 || lines.length ≤ index then false else enclosingConditional lines index.toNat

end CodeSmells
