import CodeSmells.Text.Scan

/-!
Tokens of a script, told by their first characters. What a mark means depends on where it stands: an
ampersand before a text joins two values after a value, and makes a name where a value may start.
The marks of the line structure, which no character stands for, are tokens as well; the cursor makes
them.
-/

set_option autoImplicit false

namespace CodeSmells.Script

/-- The tokens of a script. The last five stand for the line structure. -/
inductive Token where
  | word (name : String)
  | number
  /-- A text in quotation marks. -/
  | text
  /-- A text in quotation marks that is a name or a path. -/
  | label
  | symbol (sign : String)
  /-- What belongs to no script. -/
  | stray
  /-- The end of a statement. -/
  | lineEnd
  /-- The start of a block. -/
  | deeper
  /-- The end of a block. -/
  | shallower
  /-- The end of a block before a bracket that closes or a comma. -/
  | close
  /-- The end of the script. -/
  | finish
deriving DecidableEq, Inhabited

/-- Characters of words. -/
def isWordChar (c : Char) : Bool :=
  c.isAlphanum || c == '_'

/-- Digits of the base sixteen. -/
def isHexDigit (c : Char) : Bool :=
  c.isDigit || ('a' ≤ c && c ≤ 'f') || ('A' ≤ c && c ≤ 'F')

/-- Whether an escape may go on like this after its backslash: two digits of the base sixteen follow
an `x` and four a `u`, and three decimal digits an `o`. -/
def isEscape : List Char → Bool
  | 'x' :: cs => 2 ≤ (cs.takeWhile isHexDigit).length
  | 'u' :: cs => 4 ≤ (cs.takeWhile isHexDigit).length
  | 'o' :: cs => 3 ≤ (cs.takeWhile Char.isDigit).length
  | _ => true

/-- How many characters follow the opening mark of a text on one line, its closing mark included.
In a raw text a backslash only keeps the next character from closing it. -/
def closeShort (mark : Char) (raw : Bool) : List Char → Option Nat
  | [] => none
  | '\\' :: c :: cs =>
    if raw || isEscape (c :: cs) then (closeShort mark raw cs).map (· + 2) else none
  | c :: cs =>
    if c == mark then some 1
    else if c == '\n' then none
    else (closeShort mark raw cs).map (· + 1)

/-- How many characters follow the three opening marks of a text on many lines. -/
def closeLong (mark : Char) (raw : Bool) : List Char → Option Nat
  | '\\' :: d :: cs =>
    if raw || isEscape (d :: cs) then (closeLong mark raw cs).map (· + 2) else none
  | a :: b :: c :: cs =>
    if a == mark && b == mark && c == mark then some 3
    else (closeLong mark raw (b :: c :: cs)).map (· + 1)
  | _ => none

/-- Whether a text in quotation marks starts here. -/
def startsText : List Char → Bool
  | c :: _ => c == '"' || c == '\''
  | [] => false

/-- How many characters a text takes from its opening mark on. -/
def textLength? (raw : Bool) : List Char → Option Nat
  | [] => none
  | mark :: cs =>
    match cs with
    | a :: b :: rest =>
      if a == mark && b == mark then (closeLong mark raw rest).map (· + 3)
      else (closeShort mark raw cs).map (· + 1)
    | _ => (closeShort mark raw cs).map (· + 1)

/-- A text with `skipped` characters in front of its opening mark, as the given token. One that does
not close is stray up to the end of its line. -/
def quoted (token : Token) (raw : Bool) (skipped : Nat) (cs : List Char) : Token × Nat :=
  match textLength? raw (cs.drop skipped) with
  | some n => (token, skipped + n)
  | none => (.stray, 1 + ((cs.drop 1).takeWhile (· != '\n')).length)

/-- How many characters belong to digits of one kind. Single underscores may stand between them, and
one after the last if `trailing`. -/
def digitRun (isDigit : Char → Bool) (trailing : Bool) : List Char → Nat
  | c :: '_' :: d :: cs =>
    if isDigit c && isDigit d then 2 + digitRun isDigit trailing (d :: cs)
    else if isDigit c then if trailing then 2 else 1
    else 0
  | c :: '_' :: [] => if isDigit c then if trailing then 2 else 1 else 0
  | c :: cs => if isDigit c then 1 + digitRun isDigit trailing cs else 0
  | [] => 0

/-- How many characters belong to decimal digits. -/
def decimalRun : List Char → Nat :=
  digitRun Char.isDigit true

/-- How many characters belong to the exponent of a number. -/
def exponentLength : List Char → Nat
  | e :: cs =>
    if e == 'e' || e == 'E' then
      match cs with
      | s :: rest =>
        if s == '+' || s == '-' then if decimalRun rest == 0 then 0 else decimalRun rest + 2
        else if decimalRun cs == 0 then 0 else decimalRun cs + 1
      | [] => 0
    else 0
  | [] => 0

/-- How many characters belong to a number from its point on. -/
def fractionLength : List Char → Nat
  | '.' :: cs => 1 + decimalRun cs + exponentLength (cs.drop (decimalRun cs))
  | cs => exponentLength cs

/-- The digits that a number may have after a nought and the given letter. -/
def baseDigits? (letter : Char) : Option (Char → Bool) :=
  if letter == 'x' || letter == 'X' then some isHexDigit
  else if letter == 'o' || letter == 'O' then some fun c => '0' ≤ c && c ≤ '7'
  else if letter == 'b' || letter == 'B' then some fun c => c == '0' || c == '1'
  else none

/-- How many characters a number in another base takes; an underscore may come before its digits. -/
def basedLength? : List Char → Option Nat
  | '0' :: letter :: cs => do
    let isDigit ← baseDigits? letter
    let lead := if cs.head? == some '_' then 1 else 0
    match digitRun isDigit false (cs.drop lead) with
    | 0 => none
    | n => some (2 + lead + n)
  | _ => none

/-- How many characters a number takes. -/
def numberLength (cs : List Char) : Nat :=
  (basedLength? cs).getD (decimalRun cs + fractionLength (cs.drop (decimalRun cs)))

/-- The word at the start of a text. -/
def wordAt? : List Char → Option (List Char)
  | c :: cs => if Text.isNameStart c then some (c :: cs.takeWhile isWordChar) else none
  | [] => none

/-- Symbols of more than one character, longer ones first. -/
def longSymbols : List String :=
  ["**=", "<<=", ">>=", "...", "->", ":=", "==", "!=", "<=", ">=", "&&", "||", "+=", "-=", "*=",
   "/=", "%=", "&=", "|=", "^=", "**", "<<", ">>", ".."]

/-- Symbols of one character. -/
def shortSymbols : List Char :=
  "+-*/%=<>!&|^~.,:;()[]\x7b\x7d@$".toList

/-- The symbol at the start of a text. -/
def symbolAt (cs : List Char) : Token × Nat :=
  match longSymbols.find? fun s => s.toList.isPrefixOf cs with
  | some s => (.symbol s, s.length)
  | none =>
    match cs with
    | c :: _ => if shortSymbols.contains c then (.symbol (String.ofList [c]), 1) else (.stray, 1)
    | [] => (.finish, 0)

/-- The value at the start of a text, if it starts with a mark or a digit. -/
def markedValue? : List Char → Option (Token × Nat)
  | [] => none
  | c :: cs =>
    if c == 'r' && startsText cs then some (quoted .text true 1 (c :: cs))
    else if (c == '&' || c == '^' || c == '@') && startsText cs then
      some (quoted .label false 1 (c :: cs))
    else if c.isDigit || (c == '.' && (cs.head?.map Char.isDigit).getD false) then
      some (.number, numberLength (c :: cs))
    else none

/-- The token at the start of a text with its length. The flag tells whether a value may start
here. -/
def tokenAt (value : Bool) (cs : List Char) : Token × Nat :=
  if startsText cs then quoted .text false 0 cs
  else
    match if value then markedValue? cs else none with
    | some found => found
    | none =>
      match wordAt? cs with
      | some name => (.word (String.ofList name), name.length)
      | none => symbolAt cs

end CodeSmells.Script
