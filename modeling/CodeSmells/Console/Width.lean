import CodeSmells.Console.WidthData
import CodeSmells.Text.Ranges

/-!
How many cells of a terminal a text takes. A character takes two for the wide characters of East
Asian scripts and for pictures, none for controls and for marks that combine with the character
before, and one otherwise. Two characters look beyond themselves: what follows a joiner becomes part
of the character before it, and a variation selector turns a narrow symbol before it into a picture.
-/

set_option autoImplicit false

namespace CodeSmells.Console

/-- The cells of a character by itself. -/
def cellWidth (c : Char) : Nat :=
  let n := c.toNat
  if 32 ≤ n && n < 127 then 1
  else if n < 160 then 0
  else if Text.inRanges combiningRanges n then 0
  else if Text.inRanges wideRanges n then 2
  else 1

/-- The joiner, which makes one picture of the characters around it. -/
def joiner : Char := '\u200d'

/-- The variation selector that asks for a picture. -/
def pictureSelector : Char := '\ufe0f'

/-- How many cells the selector adds to the last character that took any. -/
def growth (last : Option Char) : Nat :=
  match last with
  | some c => if Text.inRanges symbolRanges c.toNat then 1 else 0
  | none => 0

/-- The cells of a text after a joiner, if `joined`, and after `last`, the last character that took
any cell. -/
def widthFrom (joined : Bool) (last : Option Char) : List Char → Nat
  | [] => 0
  | c :: cs =>
    if joined then widthFrom false last cs
    else if c == joiner then widthFrom true last cs
    else if c == pictureSelector then growth last + widthFrom false none cs
    else if cellWidth c == 0 then widthFrom false last cs
    else cellWidth c + widthFrom false (some c) cs

/-- The cells of a text. -/
def textWidth (cs : List Char) : Nat :=
  widthFrom false none cs

/-- Characters that show as one, with their cells. -/
structure Cluster where
  chars : List Char
  width : Nat
deriving DecidableEq, Inhabited

/-- A cluster with one more character. -/
def Cluster.extend (k : Cluster) (c : Char) (more : Nat) : Cluster :=
  ⟨k.chars ++ [c], k.width + more⟩

/-- The clusters of a text after `current`, the cluster that has been read last, and otherwise as in
`widthFrom`. -/
def clustersFrom (current : Cluster) (joined : Bool) (last : Option Char) :
    List Char → List Cluster
  | [] => [current]
  | c :: cs =>
    if joined then clustersFrom (current.extend c 0) false last cs
    else if c == joiner then clustersFrom (current.extend c 0) true last cs
    else if c == pictureSelector then
      clustersFrom (current.extend c (growth last)) false
        (if growth last == 0 then last else none) cs
    else if cellWidth c == 0 then clustersFrom (current.extend c 0) false last cs
    else current :: clustersFrom ⟨[c], cellWidth c⟩ false (some c) cs

/-- The clusters of a text. A joiner or a selector at its start stands for itself. -/
def clusters : List Char → List Cluster
  | [] => []
  | c :: cs =>
    if c == joiner || c == pictureSelector || cellWidth c == 0 then
      clustersFrom ⟨[c], 0⟩ false none cs
    else clustersFrom ⟨[c], cellWidth c⟩ false (some c) cs

end CodeSmells.Console
