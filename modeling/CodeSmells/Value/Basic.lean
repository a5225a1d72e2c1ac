import CodeSmells.Number.Limit
import CodeSmells.Number.Shortest
import CodeSmells.Text.Quoted
import CodeSmells.Value.Moment

/-!
Values of documents: what a configuration holds, what a report writes and what a description of
code may hold in place of a proper entity. Tables keep the order of their entries. A row is a
fixed sequence, written like a list except in quoted form.
-/

set_option autoImplicit false

namespace CodeSmells

/-- A value of a document. -/
inductive Value where
  | null
  | flag (b : Bool)
  | whole (n : Int)
  | real (x : Quantity)
  | text (s : String)
  | moment (m : Moment)
  | list (items : List Value)
  | row (items : List Value)
  | table (entries : List (String × Value))
deriving Inhabited

/-- The entries of a table, in order. -/
abbrev Entries := List (String × Value)

namespace Value

/-- A count as a value. -/
def count (n : Nat) : Value :=
  whole n

/-- Texts as a row. -/
def texts (xs : List String) : Value :=
  row (xs.map text)

/-- A text, or null when there is none. -/
def optText : Option String → Value
  | some s => text s
  | none => null

/-- A number, or null when there is none. -/
def optWhole : Option Int → Value
  | some n => whole n
  | none => null

/-- The name of a value's kind, as messages give it. -/
def kindName : Value → String
  | null => "NoneType"
  | flag _ => "bool"
  | whole _ => "int"
  | real _ => "float"
  | text _ => "str"
  | moment (.day _) => "datetime.date"
  | moment (.time _) => "datetime.time"
  | moment (.instant ..) => "datetime.datetime"
  | list _ => "list"
  | row _ => "tuple"
  | table _ => "dict"

/-- The exact quantity of a number or flag; other values have none. -/
def quantity? : Value → Option Quantity
  | flag b => some (.ofInt (if b then 1 else 0))
  | whole n => some (.ofInt n)
  | real x => some x
  | _ => none

/-- Whether a value counts as true: not null, not empty and not nought. -/
def isTruthy : Value → Bool
  | null => false
  | flag b => b
  | whole n => n != 0
  | real x => x.value? != some 0
  | text s => s != ""
  | moment _ => true
  | list xs => !xs.isEmpty
  | row xs => !xs.isEmpty
  | table es => !es.isEmpty

mutual

/-- The value in quoted form, unless a number in it is too long. -/
def literal : Value → Except String String
  | null => return "None"
  | flag true => return "True"
  | flag false => return "False"
  | whole n => writeWhole n
  | real x => return x.render
  | text s => return Text.quoted s
  | moment m => return m.literal
  | list xs => return "[" ++ String.intercalate ", " (← literals xs) ++ "]"
  | row [x] => return "(" ++ (← literal x) ++ ",)"
  | row xs => return "(" ++ String.intercalate ", " (← literals xs) ++ ")"
  | table es => return "\x7b" ++ String.intercalate ", " (← entryLiterals es) ++ "\x7d"

/-- Every value of a sequence in quoted form. -/
def literals : List Value → Except String (List String)
  | [] => return []
  | x :: xs => return (← literal x) :: (← literals xs)

/-- Every entry of a table in quoted form. -/
def entryLiterals : List (String × Value) → Except String (List String)
  | [] => return []
  | (k, v) :: es => return (Text.quoted k ++ ": " ++ (← literal v)) :: (← entryLiterals es)

end

/-- The value in running text: a text stands there as it is. -/
def describe : Value → Except String String
  | text s => return s
  | moment m => return m.describe
  | v => v.literal

@[simp]
theorem describe_text (s : String) : (text s).describe = .ok s := rfl

end Value

namespace Entries

/-- The value under a key. -/
def get? (key : String) (es : Entries) : Option Value :=
  (es.find? fun e => e.1 == key).map (·.2)

/-- Puts a value under a key: in place when the key is there, else at the end. -/
def put (key : String) (v : Value) : Entries → Entries
  | [] => [(key, v)]
  | (k, w) :: es => if k == key then (k, v) :: es else (k, w) :: put key v es

/-- Entries in the order of their first occurrence, each with its last value. -/
def ofList (es : List (String × Value)) : Entries :=
  es.foldl (fun acc (k, v) => put k v acc) []

/-- Removes a key. -/
def erase (key : String) (es : Entries) : Entries :=
  es.filter fun e => e.1 != key

/-- Whether a key is there. -/
def has (key : String) (es : Entries) : Bool :=
  es.any fun e => e.1 == key

end Entries

end CodeSmells
