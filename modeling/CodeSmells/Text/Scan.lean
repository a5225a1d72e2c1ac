import CodeSmells.Text.Word
import CodeSmells.Text.Blank

/-!
Searching a text for the places where a pattern starts. A pattern is a function that reads one
occurrence at the start of the remaining text, given the character before it. Occurrences are
found from left to right and never overlap.
-/

set_option autoImplicit false

namespace CodeSmells.Text

/-- Reads one occurrence at the start of the text, after the given character, and gives what it
found with the rest of the text. -/
abbrev Pattern (α : Type) := Option Char → List Char → Option (α × List Char)

namespace Pattern

variable {α : Type}

/-- The occurrences in a text whose first `skip` characters belong to an earlier occurrence. -/
def findFrom (p : Pattern α) : Option Char → Nat → List Char → List α
  | _, _, [] => []
  | _, skip + 1, c :: cs => findFrom p (some c) skip cs
  | before, 0, c :: cs =>
    match p before (c :: cs) with
    | some (a, rest) => a :: findFrom p (some c) (cs.length - rest.length) cs
    | none => findFrom p (some c) 0 cs

/-- Every occurrence in a text, from left to right. -/
def findAll (p : Pattern α) (cs : List Char) : List α :=
  findFrom p none 0 cs

/-- The first occurrence at or after a place. -/
def firstFrom (p : Pattern α) : Option Char → List Char → Option α
  | before, [] => (p before []).map (·.1)
  | before, c :: cs =>
    match p before (c :: cs) with
    | some (a, _) => some a
    | none => firstFrom p (some c) cs

/-- The first occurrence in a text. -/
def first? (p : Pattern α) (cs : List Char) : Option α :=
  firstFrom p none cs

/-- Whether the pattern occurs in a text. -/
def occurs (p : Pattern α) (cs : List Char) : Bool :=
  (p.first? cs).isSome

end Pattern

/-- Whether a character stands there and satisfies `p`. -/
def holdsAt (p : Char → Bool) : Option Char → Bool
  | some c => p c
  | none => false

/-- Whether a word starts or ends between two neighbouring characters. -/
def isBoundary (before next : Option Char) : Bool :=
  holdsAt isWord before != holdsAt isWord next

/-- The text without its leading blanks. -/
def skipBlanks (cs : List Char) : List Char :=
  cs.dropWhile isBlank

/-- The text after at least one blank, all leading blanks removed. -/
def someBlanks? : List Char → Option (List Char)
  | c :: cs => if isBlank c then some (skipBlanks cs) else none
  | [] => none

/-- The text after one given character. -/
def char? (k : Char) : List Char → Option (List Char)
  | c :: cs => if c == k then some cs else none
  | [] => none

/-- The text after one of the given characters. -/
def oneOf? (ks : List Char) : List Char → Option (List Char)
  | c :: cs => if ks.contains c then some cs else none
  | [] => none

/-- The text after one given character, or the whole text when it starts otherwise. -/
def optChar (k : Char) (cs : List Char) : List Char :=
  (char? k cs).getD cs

/-- The text after a single or double quotation mark. -/
def quoteMark? (cs : List Char) : Option (List Char) :=
  oneOf? ['"', '\''] cs

/-- A non-empty run of characters that satisfy `p`, and the rest. -/
def run? (p : Char → Bool) (cs : List Char) : Option (List Char × List Char) :=
  match cs.takeWhile p with
  | [] => none
  | w => some (w, cs.dropWhile p)

/-- Neither a single nor a double quotation mark. -/
def notQuoteMark (c : Char) : Bool :=
  c != '"' && c != '\''

/-- Whether nothing is left, or a last line feed only. -/
def atEnd : List Char → Bool
  | [] => true
  | ['\n'] => true
  | _ => false

/-- Parts of a text between the characters that satisfy `p`, empty parts included. -/
def splitAtChars (p : Char → Bool) (cs : List Char) : List (List Char) :=
  cs.splitOnP p

end CodeSmells.Text
