import CodeSmells.Script.Cursor

/-!
The classes of a script that does not follow the grammar, told by their headers alone. Only headers
outside brackets count, so a bracket that never closes hides all that follow. A header that breaks
off takes in everything up to the next colon.
-/

set_option autoImplicit false

namespace CodeSmells.Script

/-- The tokens of a text without its line structure, with a bound on their number. -/
def looseTokens : Nat → Cursor → List Token
  | 0, _ => []
  | fuel + 1, c =>
    let step := c.next true .nothing
    if step.token = .finish then [] else step.token :: looseTokens fuel step.after

/-- Keeps the tokens outside brackets, given how many brackets are open. A bracket that closes none
is passed over. -/
def outside : Nat → List Token → List Token
  | _, [] => []
  | depth, t :: ts =>
    if [.symbol "(", .symbol "[", .symbol "\x7b"].contains t then outside (depth + 1) ts
    else if [.symbol ")", .symbol "]", .symbol "\x7d"].contains t then outside (depth - 1) ts
    else if depth == 0 then t :: outside depth ts
    else outside depth ts

/-- Words after which a word is a name. -/
def namingWords : List String :=
  ["var", "const", "func", "signal", "enum", "class_name", "for", "extends"]

/-- What the headers are looked for in: the text after a token, after the word `class`, after a name
that follows it, or in front of a number of colons. -/
inductive Search where
  | open
  | name
  | afterName
  | skipName
  | colons (further : Nat)

/-- The names in the headers of classes. -/
def headerNames : Search → List Token → List String
  | _, [] => []
  | .name, .word w :: ts => w :: headerNames .afterName ts
  | .afterName, t :: ts =>
    headerNames (if t = .symbol ":" || t = .word "extends" then .open else .colons 0) ts
  | .skipName, .word _ :: ts => headerNames .open ts
  | .colons further, t :: ts =>
    if t = .symbol ":" then
      match further with
      | further + 1 => headerNames (.colons further) ts
      | 0 => headerNames .open ts
    else headerNames (.colons further) ts
  | _, .word w :: ts =>
    if w == "class" then headerNames .name ts
    else if w == "match" then headerNames (.colons 1) ts
    else if namingWords.contains w then headerNames .skipName ts
    else headerNames .open ts
  | _, t :: ts => headerNames (if t = .symbol "." then .skipName else .open) ts

/-- The names of the classes whose headers can be made out. -/
def looseClassNames (source : List Char) : List String :=
  headerNames .open (outside 0 (looseTokens (source.length + 1) (.ofText source)))

end CodeSmells.Script
