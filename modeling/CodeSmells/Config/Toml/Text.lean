import CodeSmells.Text.Word

/-!
Strings and keys of TOML documents. The functions take the text from where the string or key starts
and give it with the rest of the text; nothing when the text is malformed.
-/

set_option autoImplicit false

namespace CodeSmells.Toml

open Text (after?)

/-- Space and tabulator. -/
def isSpace (c : Char) : Bool :=
  c == ' ' || c == '\t'

/-- The text without leading spaces and tabulators. -/
def skipSpaces (cs : List Char) : List Char :=
  cs.dropWhile isSpace

/-- Control characters other than the tabulator. -/
def isIllegal (c : Char) : Bool :=
  (c.toNat < 32 && c != '\t') || c.toNat == 127

/-- The characters of a key without quotes. -/
def isKeyChar (c : Char) : Bool :=
  c.isAlphanum || c == '-' || c == '_'

/-- The value of a hexadecimal digit. -/
def hexValue? (c : Char) : Option Nat :=
  if c.isDigit then some (c.toNat - 48)
  else if 'a' ≤ c && c ≤ 'f' then some (c.toNat - 87)
  else if 'A' ≤ c && c ≤ 'F' then some (c.toNat - 55)
  else none

/-- The number that exactly `width` hexadecimal digits spell. -/
def hexNumber? : Nat → Nat → List Char → Option (Nat × List Char)
  | 0, acc, cs => some (acc, cs)
  | _ + 1, _, [] => none
  | width + 1, acc, c :: cs =>
    match hexValue? c with
    | some d => hexNumber? width (16 * acc + d) cs
    | none => none

/-- The character of an escape by number; surrogates are no characters. -/
def scalar? (n : Nat) : Option Char :=
  if n < 0xd800 || (0xdfff < n && n ≤ 0x10ffff) then some (Char.ofNat n) else none

/-- The escapes of one letter. -/
def simpleEscape? : Char → Option Char
  | 'b' => some '\x08'
  | 't' => some '\t'
  | 'n' => some '\n'
  | 'f' => some '\x0c'
  | 'r' => some '\r'
  | '"' => some '"'
  | '\\' => some '\\'
  | _ => none

/-- What an escape stands for, after its backslash. In a string of several lines a backslash at the
end of a line takes the line end and all blanks after it away. -/
def escape? (multiline : Bool) : List Char → Option (List Char × List Char)
  | [] => none
  | c :: cs =>
    if multiline && (isSpace c || c == '\n') then
      match (c :: cs).dropWhile isSpace with
      | [] => some ([], [])
      | '\n' :: rest => some ([], rest.dropWhile fun d => isSpace d || d == '\n')
      | _ => none
    else if c == 'u' || c == 'U' then
      match hexNumber? (if c == 'u' then 4 else 8) 0 cs with
      | some (n, rest) => (scalar? n).map fun d => ([d], rest)
      | none => none
    else (simpleEscape? c).map fun d => ([d], cs)

/-- The rest of a string with escapes, after its opening quotes. The fuel bounds the number of
characters and escapes. -/
def basicBody? (multiline : Bool) : Nat → List Char → Option (List Char × List Char)
  | 0, _ => none
  | _ + 1, [] => none
  | fuel + 1, c :: cs =>
    if c == '"' then
      if multiline then
        match after? ['"', '"'] cs with
        | some rest => some ([], rest)
        | none => (basicBody? multiline fuel cs).map fun (s, rest) => (c :: s, rest)
      else some ([], cs)
    else if c == '\\' then
      match escape? multiline cs with
      | some (d, rest) => (basicBody? multiline fuel rest).map fun (s, rest) => (d ++ s, rest)
      | none => none
    else if isIllegal c && !(multiline && c == '\n') then none
    else (basicBody? multiline fuel cs).map fun (s, rest) => (c :: s, rest)

/-- The rest of a string without escapes, after its opening quote. -/
def literalBody? : List Char → Option (List Char × List Char)
  | [] => none
  | c :: cs =>
    if c == '\'' then some ([], cs)
    else if isIllegal c then none
    else (literalBody? cs).map fun (s, rest) => (c :: s, rest)

/-- The rest of a string without escapes over several lines, after its opening quotes. -/
def literalLines? : List Char → Option (List Char × List Char)
  | [] => none
  | c :: cs =>
    match after? ['\'', '\'', '\''] (c :: cs) with
    | some rest => some ([], rest)
    | none =>
      if isIllegal c && c != '\n' then none
      else (literalLines? cs).map fun (s, rest) => (c :: s, rest)

/-- Up to two more quotes right after the closing ones belong to the string. -/
def withExtraQuotes (quote : Char) (body rest : List Char) : List Char × List Char :=
  match rest with
  | c :: d :: later =>
    if c == quote && d == quote then (body ++ [quote, quote], later)
    else if c == quote then (body ++ [quote], d :: later)
    else (body, rest)
  | [c] => if c == quote then (body ++ [quote], []) else (body, rest)
  | [] => (body, [])

/-- The text without a line feed at its start. -/
def dropNewline : List Char → List Char
  | '\n' :: cs => cs
  | cs => cs

/-- A string of one line. -/
def lineString? : List Char → Option (List Char × List Char)
  | '"' :: cs => basicBody? false (cs.length + 1) cs
  | '\'' :: cs => literalBody? cs
  | _ => none

/-- A string of either kind, on one line or several. -/
def string? (cs : List Char) : Option (List Char × List Char) :=
  match cs with
  | '"' :: '"' :: '"' :: rest =>
    let body := dropNewline rest
    (basicBody? true (body.length + 1) body).map fun (s, later) => withExtraQuotes '"' s later
  | '\'' :: '\'' :: '\'' :: rest =>
    (literalLines? (dropNewline rest)).map fun (s, later) => withExtraQuotes '\'' s later
  | _ => lineString? cs

/-- One part of a key. -/
def keyPart? (cs : List Char) : Option (String × List Char) :=
  match cs.takeWhile isKeyChar with
  | [] => (lineString? cs).map fun (s, rest) => (String.ofList s, rest)
  | part => some (String.ofList part, cs.dropWhile isKeyChar)

/-- A key of parts divided by dots; the fuel bounds their number. -/
def keyParts? : Nat → List Char → Option (List String × List Char)
  | 0, _ => none
  | fuel + 1, cs =>
    match keyPart? cs with
    | none => none
    | some (part, rest) =>
      match skipSpaces rest with
      | '.' :: later =>
        (keyParts? fuel (skipSpaces later)).map fun (parts, rest) => (part :: parts, rest)
      | rest => some ([part], rest)

/-- A key at the start of the text, and what follows it and the spaces after it. -/
def key? (cs : List Char) : Option (List String × List Char) :=
  keyParts? (cs.length + 1) cs

end CodeSmells.Toml
