import CodeSmells.Number.Binary
import CodeSmells.Text.Alphanumeric
import CodeSmells.Text.Blank
import CodeSmells.Text.Case

/-!
Reading decimal numbers. A number has an optional sign, digits with at most one point, and an
optional exponent; single underscores may stand between digits. The names of the infinities and
of the undefined quantity are read in any case. The value read is the nearest binary fraction.
-/

set_option autoImplicit false

namespace CodeSmells

open Text (digitValue? lower trim)

/-- Digits of any script, with single underscores between them; with the rest of the text. The
flag says whether a digit stands right before. -/
def digitRun (after : Bool) : List Char → List Nat × List Char
  | [] => ([], [])
  | c :: cs =>
    match digitValue? c with
    | some d => let (ds, rest) := digitRun true cs; (d :: ds, rest)
    | none =>
      match c == '_' && after, cs with
      | true, d :: _ => if (digitValue? d).isSome then digitRun false cs else ([], c :: cs)
      | _, _ => ([], c :: cs)

/-- The number that decimal digits spell. -/
def ofDigits (ds : List Nat) : Nat :=
  ds.foldl (fun n d => 10 * n + d) 0

/-- The nearest binary fraction to `digits * 10 ^ exponent`. Exponents far outside the range
decide the result without computing the power. -/
def scaled (digits : Nat) (exponent : Int) : Quantity :=
  if digits == 0 then .finite 0
  else
    let top := (Nat.toDigits 10 digits).length + exponent
    if 400 < top then .infinite false
    else if top < -400 then .finite 0
    else Quantity.ofRat ((digits : Rat) * tenPow exponent)

/-- An exponent: a mark, an optional sign and digits. Nothing at all is exponent zero. -/
def exponent? : List Char → Option Int
  | [] => some 0
  | c :: cs =>
    if c == 'e' || c == 'E' then
      let (negative, body) :=
        match cs with
        | '-' :: r => (true, r)
        | '+' :: r => (false, r)
        | r => (false, r)
      match digitRun false body with
      | ([], _) => none
      | (ds, []) => some (if negative then -(ofDigits ds : Int) else ofDigits ds)
      | _ => none
    else none

/-- An unsigned number. -/
def unsigned? (cs : List Char) : Option Quantity :=
  if lower cs == "inf".toList || lower cs == "infinity".toList then some (.infinite false)
  else if lower cs == "nan".toList then some .undefined
  else
    let (whole, rest) := digitRun false cs
    let (part, rest) :=
      match rest with
      | '.' :: r => digitRun false r
      | r => ([], r)
    if whole.isEmpty && part.isEmpty then none
    else (exponent? rest).map fun e => scaled (ofDigits (whole ++ part)) (e - part.length)

namespace Quantity

/-- Reads a number; blanks around it are left aside. -/
def read? (text : List Char) : Option Quantity :=
  match trim text with
  | '-' :: cs => (unsigned? cs).map neg
  | '+' :: cs => unsigned? cs
  | cs => unsigned? cs

end Quantity

end CodeSmells
