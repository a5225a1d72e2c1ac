import CodeSmells.Value.Basic

/-!
Values as JSON texts. The texts hold ASCII only: other characters are written by their UTF-16
code units. Entries keep their order. A text is written on one line, or with each item on a line
of its own and an indentation of two blanks per level. A value with a whole number that is too long
has no text.
-/

set_option autoImplicit false

namespace CodeSmells.Json

open Text (hexDigits)

/-- One UTF-16 code unit as an escape. -/
def unitEscape (n : Nat) : List Char :=
  '\\' :: 'u' :: hexDigits 4 n

/-- One character inside a JSON string. -/
def escapeChar (c : Char) : List Char :=
  if c == '"' then ['\\', '"']
  else if c == '\\' then ['\\', '\\']
  else if c == '\n' then ['\\', 'n']
  else if c == '\r' then ['\\', 'r']
  else if c == '\t' then ['\\', 't']
  else if c == '\x08' then ['\\', 'b']
  else if c == '\x0c' then ['\\', 'f']
  else
    let n := c.toNat
    if 32 ≤ n && n ≤ 126 then [c]
    else if n < 0x10000 then unitEscape n
    else unitEscape (0xd800 + (n - 0x10000) / 0x400) ++ unitEscape (0xdc00 + (n - 0x10000) % 0x400)

/-- A JSON string. -/
def quote (s : String) : String :=
  String.ofList ('"' :: s.toList.flatMap escapeChar ++ ['"'])

/-- A JSON number; the quantities that JSON lacks go by their names. -/
def number : Quantity → String
  | .undefined => "NaN"
  | .infinite false => "Infinity"
  | .infinite true => "-Infinity"
  | x => x.render

/-- Where items go: all on one line, or each on its own line at a depth. -/
inductive Layout where
  | inline
  | indented (depth : Nat)

namespace Layout

/-- The layout inside a container. -/
def deeper : Layout → Layout
  | inline => inline
  | indented d => indented (d + 1)

/-- A line break with the indentation of this depth. -/
def lineBreak : Layout → String
  | inline => ""
  | indented d => "\n" ++ String.ofList (List.replicate (2 * d) ' ')

/-- The text between two items at this depth. -/
def separator : Layout → String
  | inline => ", "
  | l => "," ++ l.lineBreak

/-- A container with its items; an empty one is written without a break. -/
def enclose (l : Layout) (opening closing : String) (items : List String) : String :=
  if items.isEmpty then opening ++ closing
  else
    opening ++ l.deeper.lineBreak ++ String.intercalate l.deeper.separator items ++
      l.lineBreak ++ closing

end Layout

mutual

/-- The JSON text of a value. -/
def render (l : Layout) : Value → Except String String
  | .null => return "null"
  | .flag true => return "true"
  | .flag false => return "false"
  | .whole n => writeWhole n
  | .real x => return number x
  | .text s => return quote s
  | .moment m => return quote m.describe
  | .list xs => return l.enclose "[" "]" (← renderAll l.deeper xs)
  | .row xs => return l.enclose "[" "]" (← renderAll l.deeper xs)
  | .table es => return l.enclose "\x7b" "\x7d" (← renderEntries l.deeper es)

/-- The JSON texts of a sequence of values. -/
def renderAll (l : Layout) : List Value → Except String (List String)
  | [] => return []
  | x :: xs => return (← render l x) :: (← renderAll l xs)

/-- The JSON texts of the entries of a table. -/
def renderEntries (l : Layout) : List (String × Value) → Except String (List String)
  | [] => return []
  | (k, v) :: es => return (quote k ++ ": " ++ (← render l v)) :: (← renderEntries l es)

end

/-- The value on one line. -/
def compact (v : Value) : Except String String :=
  render .inline v

/-- The value with every item on a line of its own. -/
def indented (v : Value) : Except String String :=
  render (.indented 0) v

end CodeSmells.Json
