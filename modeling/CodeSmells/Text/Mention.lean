import CodeSmells.Text.Scan

/-!
Mentions of a name in code. A name is mentioned where it stands as a whole word, either after
`self.` or with no word character, dot or dollar sign before it.
-/

set_option autoImplicit false

namespace CodeSmells.Text

/-- What follows a name at the start of a text, if the name ends there at a word boundary. -/
def wholeName? (name cs : List Char) : Option (List Char) :=
  match after? name cs with
  | some rest => if isBoundary name.getLast? rest.head? then some rest else none
  | none => none

/-- Neither a word character nor one of the given characters. -/
def standsFree (marks : List Char) (before : Option Char) : Bool :=
  !holdsAt (fun c => isWord c || marks.contains c) before

/-- A mention of a field, and what follows it satisfies `accept`. -/
def fieldMention (name : List Char) (accept : List Char → Bool) : Pattern Unit :=
  fun before cs =>
    let onSelf :=
      if isBoundary before cs.head? then
        ((after? "self.".toList cs).bind (wholeName? name)).filter accept
      else none
    let bare := if standsFree ['.', '$'] before then (wholeName? name cs).filter accept else none
    (onSelf.or bare).map ((), ·)

/-- Whether a text does not go on with an opening parenthesis. -/
def notCalled (rest : List Char) : Bool :=
  (skipBlanks rest).head? != some '('

end CodeSmells.Text
