import CodeSmells.Console.Picture
import CodeSmells.Console.Style
import CodeSmells.Text.Scan

/-!
Text with style tags in square brackets, as a plain text. A tag starts with a lower case letter, a
slash, a hash or an at sign; anything else in brackets is text. A backslash before a tag makes it
text. A closing tag needs an open tag of the same style; without a name it closes the last one.
Between tags, pictures stand for their names.
-/

set_option autoImplicit false

namespace CodeSmells.Console

open Text

/-- How a tag starts. -/
def startsTag (c : Char) : Bool :=
  c.isLower || c == '#' || c == '/' || c == '@'

/-- The inside of a tag that starts here, with the rest: up to the first closing bracket, before
which no opening one stands. -/
def tag? (cs : List Char) : Option (List Char × List Char) := do
  let body ← char? '[' cs
  let first ← body.head?
  guard (startsTag first)
  let inside := body.takeWhile fun c => c != ']' && c != '['
  let rest ← char? ']' (body.drop inside.length)
  return (inside, rest)

/-- A piece of marked-up text. -/
inductive Piece where
  | plain (cs : List Char)
  | tag (inside : List Char)
deriving DecidableEq, Inhabited

/-- The pieces of a text. `run` holds the plain characters before the text, reversed; the first
`skip` characters belong to a tag before. -/
def piecesFrom (run : List Char) (skip : Nat) : List Char → List Piece
  | [] => [.plain run.reverse]
  | c :: cs =>
    match skip with
    | skip + 1 => piecesFrom run skip cs
    | 0 =>
      match tag? (c :: cs) with
      | none => piecesFrom (c :: run) 0 cs
      | some (inside, _) =>
        let marks := (run.takeWhile (· == '\\')).length
        let before := List.replicate (marks / 2) '\\' ++ run.drop marks
        if marks % 2 == 1 then
          .plain before.reverse :: .plain ('[' :: inside ++ [']']) ::
            piecesFrom [] (inside.length + 1) cs
        else .plain before.reverse :: .tag inside :: piecesFrom [] (inside.length + 1) cs

/-- A text without the backslashes before opening brackets. -/
def unescapeBrackets : List Char → List Char
  | '\\' :: '[' :: cs => '[' :: unescapeBrackets cs
  | c :: cs => c :: unescapeBrackets cs
  | [] => []

/-- The name of a tag, up to an equals sign. -/
def tagName (inside : List Char) : List Char :=
  trim (inside.takeWhile (· != '='))

/-- The plain text of pieces while the given styles are open, the last one first; nothing when a
closing tag does not fit. -/
def plainOf? (opened : List String) : List Piece → Option (List Char)
  | [] => some []
  | .plain cs :: rest => (plainOf? opened rest).map (draw (unescapeBrackets cs) ++ ·)
  | .tag ('/' :: inside) :: rest =>
    match tagName inside, opened with
    | [], [] => none
    | [], _ :: others => plainOf? others rest
    | name, _ =>
      if opened.contains (styleName name) then plainOf? (opened.erase (styleName name)) rest
      else none
  | .tag inside :: rest => plainOf? (styleName (tagName inside) :: opened) rest

/-- The plain text of a marked-up text. -/
def plainText? (s : String) : Option (List Char) :=
  plainOf? [] (piecesFrom [] 0 s.toList)

/-- A text whose brackets are no tags: a backslash stands before each tag, and every backslash
before a tag is doubled. -/
def escapeFrom (run : List Char) (skip : Nat) : List Char → List Char
  | [] => run.reverse
  | c :: cs =>
    match skip with
    | skip + 1 => escapeFrom (c :: run) skip cs
    | 0 =>
      match tag? (c :: cs) with
      | none => escapeFrom (c :: run) 0 cs
      | some (inside, _) =>
        let marks := run.takeWhile (· == '\\')
        escapeFrom (c :: '\\' :: marks ++ run) (inside.length + 1) cs

/-- A text as it is written into marked-up text. A single backslash at its end is doubled as well,
so that it does not escape what is put after it. -/
def escapeTags (s : String) : String :=
  let cs := escapeFrom [] 0 s.toList
  let marks := cs.reverse.takeWhile (· == '\\')
  String.ofList (if marks.length == 1 then cs ++ marks else cs)

end CodeSmells.Console
