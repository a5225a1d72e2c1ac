/-!
Blank characters and trimming. Blank are the characters of every script that show as empty
space or separate lines, the four information separators among them; a zero-width character is
not blank. Trimming removes blanks at the two ends only.
-/

set_option autoImplicit false

namespace CodeSmells.Text

/-- Blank characters: spaces, tabulators, line separators and the information separators. -/
def isBlank (c : Char) : Bool :=
  let n := c.toNat
  (9 ≤ n && n ≤ 13) || (28 ≤ n && n ≤ 32) ||
    (128 ≤ n && (n == 0x85 || n == 0xa0 || n == 0x1680 || (0x2000 ≤ n && n ≤ 0x200a) ||
      n == 0x2028 || n == 0x2029 || n == 0x202f || n == 0x205f || n == 0x3000))

/-- Drops the longest leading part whose characters satisfy `p`. -/
def dropLeading (p : Char → Bool) (cs : List Char) : List Char :=
  cs.dropWhile p

/-- Drops the longest trailing part whose characters satisfy `p`. -/
def dropTrailing (p : Char → Bool) (cs : List Char) : List Char :=
  (cs.reverse.dropWhile p).reverse

/-- Drops leading and trailing characters that satisfy `p`. -/
def dropAround (p : Char → Bool) (cs : List Char) : List Char :=
  dropTrailing p (dropLeading p cs)

/-- A text without the blanks at its two ends. -/
def trim (cs : List Char) : List Char :=
  dropAround isBlank cs

/-- The string form of `trim`. -/
def trimmed (s : String) : String :=
  String.ofList (trim s.toList)

/-- The parts of a text between its blanks. -/
def blankParts (cs : List Char) : List (List Char) :=
  (cs.splitOnP isBlank).filter fun part => !part.isEmpty

end CodeSmells.Text
