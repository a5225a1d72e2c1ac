import CodeSmells.Console.PictureData
import CodeSmells.Text.Blank
import CodeSmells.Text.Case

/-!
Pictures written by name between colons. A name may end in a dash and the form that is asked for:
the picture, or its form as text. What stands between two colons and names no picture stays, and its
second colon opens no further name.
-/

set_option autoImplicit false

namespace CodeSmells.Console

open Text

/-- Pairs of neighbours: the first with the second, the third with the fourth and so on. -/
def inPairs {α : Type} : List α → List (α × α)
  | a :: b :: rest => (a, b) :: inPairs rest
  | _ => []

/-- The pictures with their names. -/
def pictures : List (List Char × List Char) :=
  inPairs (pictureWords.flatMap fun s => blankParts s.toList)

/-- The picture of a name, in any case. -/
def picture? (name : List Char) : Option (List Char) :=
  let wanted := lower name
  (pictures.find? fun p => p.1 == wanted).map (·.2)

/-- The endings that ask for a form, with the selector that gives it. -/
def forms : List (List Char × Char) :=
  [("-emoji".toList, '\ufe0f'), ("-text".toList, '\ufe0e')]

/-- The picture that stands for what is between two colons. -/
def pictureFor? (inside : List Char) : Option (List Char) :=
  match forms.find? fun f => f.1.isSuffixOf inside with
  | some (ending, selector) =>
    (picture? (inside.take (inside.length - ending.length))).map (· ++ [selector])
  | none => picture? inside

/-- What stands between a colon and the next one, when the text after the first colon is given; no
blank may stand there. -/
def named? (cs : List Char) : Option (List Char) :=
  let inside := cs.takeWhile fun c => c != ':' && !isBlank c
  if (cs.drop inside.length).head? == some ':' then some inside else none

/-- Puts in the pictures. The first `skip` characters belong to a name before and are passed over. -/
def drawFrom (skip : Nat) : List Char → List Char
  | [] => []
  | c :: cs =>
    match skip with
    | skip + 1 => drawFrom skip cs
    | 0 =>
      match if c == ':' then named? cs else none with
      | none => c :: drawFrom 0 cs
      | some inside =>
        (pictureFor? inside).getD (':' :: inside ++ [':']) ++ drawFrom (inside.length + 1) cs

/-- A text with pictures in place of their names. -/
def draw (cs : List Char) : List Char :=
  drawFrom 0 cs

end CodeSmells.Console
