import CodeSmells.Config.Settings

/-!
Writing settings as a TOML document: the array of detectors first, then the two tables, each after
an empty line.
-/

set_option autoImplicit false

namespace CodeSmells.Toml

/-- The text of a quantity without a leading nought in its exponent. -/
def shortenExponent : List Char → List Char
  | 'e' :: sign :: '0' :: cs =>
    if sign == '+' || sign == '-' then 'e' :: sign :: cs else 'e' :: sign :: '0' :: cs
  | c :: cs => c :: shortenExponent cs
  | [] => []

/-- A character inside double quotes, as quoted texts show it. -/
def quoteChar (c : Char) : List Char :=
  if c == '"' then ['\\', '"'] else if c == '\'' then ['\''] else Text.quoteChar '\'' c

/-- The parts of a text between the two characters that start an escape of two digits. -/
def splitHex (part : List Char) : List Char → List (List Char)
  | [] => [part.reverse]
  | '\\' :: 'x' :: cs => part.reverse :: splitHex [] cs
  | c :: cs => splitHex (c :: part) cs

/-- One backslash in place of every two. -/
def halveBackslashes : List Char → List Char
  | '\\' :: '\\' :: cs => '\\' :: halveBackslashes cs
  | c :: cs => c :: halveBackslashes cs
  | [] => []

/-- What joins a part to the digits after it: the number of backslashes at its end decides whether
they start an escape of four digits. -/
def hexJoint (part : List Char) : List Char :=
  let n := (part.reverse.takeWhile (· == '\\')).length
  let isPlain := if n == part.length then n % 2 == 0 else n == 0 || n % 2 == 1
  if isPlain then ['x'] else ['u', '0', '0']

/-- Joins the parts again from the left; nothing when the first part is missing. -/
def joinHex (first : List Char) : List (List Char) → Option (List Char)
  | [] => some first
  | next :: rest =>
    if first.isEmpty then none
    else
      let first := halveBackslashes first
      joinHex (first ++ hexJoint first ++ next) rest

/-- A string in double quotes; one that starts with an escape of two digits cannot be written. -/
def quote? (s : String) : Option String :=
  match splitHex [] (s.toList.flatMap quoteChar) with
  | [] => none
  | [] :: next :: rest =>
    if rest.isEmpty then none
    else (joinHex next rest).map fun body => String.ofList ('"' :: body ++ ['"'])
  | first :: rest => (joinHex first rest).map fun body => String.ofList ('"' :: body ++ ['"'])

/-- Why a document is not written. -/
inductive WriteError where
  | brokenEscape (s : String)
  | longNumber (message : String)
deriving DecidableEq, Inhabited

/-- A string of a document. -/
def writeText (s : String) : Except WriteError String :=
  match quote? s with
  | some quoted => .ok quoted
  | none => .error (.brokenEscape s)

/-- A number, flag or string of a document. -/
def writeScalar : Value → Except WriteError String
  | .flag true => return "true"
  | .flag false => return "false"
  | .real x => return String.ofList (shortenExponent x.render.toList)
  | .text s => writeText s
  | v => v.literal.mapError .longNumber

/-- An array, with a comma after every item. -/
def array (items : List String) : Except WriteError String := do
  let written ← items.mapM fun s => do return " " ++ (← writeText s) ++ ","
  return "[" ++ String.join written ++ "]"

/-- A table under its header, after an empty line. -/
def table (name : String) (es : Entries) : Except WriteError String := do
  let written ← es.mapM fun (k, v) => do return k ++ " = " ++ (← writeScalar v) ++ "\n"
  return "\n[" ++ name ++ "]\n" ++ String.join written

/-- The entries of a table. -/
def entriesOfTable : Value → Entries
  | .table es => es
  | _ => []

/-- The document of some settings. -/
def write (s : Settings) : Except WriteError String := do
  return "enabled_detectors = " ++ (← array s.enabledDetectors) ++ "\n" ++
    (← table "thresholds" s.effectiveThresholds) ++
    (← table "output" (entriesOfTable s.output.toValue))

end CodeSmells.Toml
