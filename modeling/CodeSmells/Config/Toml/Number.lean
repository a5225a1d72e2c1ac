import CodeSmells.Number.Decimal
import CodeSmells.Number.Limit
import CodeSmells.Text.Scan
import CodeSmells.Value.Basic

/-!
Numbers, dates and times of TOML documents.
-/

set_option autoImplicit false

namespace CodeSmells.Toml

open Text (after?)

/-- Why a document cannot be read. -/
inductive Fault where
  | malformed
  | longNumber (digits : Nat)
deriving DecidableEq, Inhabited

/-- What is missing where the grammar asks for it makes a document malformed. -/
def required {α : Type} : Option α → Except Fault α
  | some a => .ok a
  | none => .error .malformed

/-- More digits, each after an optional underscore. -/
def moreDigits (p : Char → Bool) : List Char → List Char × List Char
  | '_' :: c :: cs =>
    if p c then let (ds, rest) := moreDigits p cs; (c :: ds, rest) else ([], '_' :: c :: cs)
  | c :: cs =>
    if p c then let (ds, rest) := moreDigits p cs; (c :: ds, rest) else ([], c :: cs)
  | [] => ([], [])

/-- A run of digits with single underscores between them. -/
def digits? (p : Char → Bool) : List Char → Option (List Char × List Char)
  | c :: cs =>
    if p c then let (ds, rest) := moreDigits p cs; some (c :: ds, rest) else none
  | [] => none

/-- The number that digits spell in a base. -/
def inBase (base : Nat) (ds : List Char) : Nat :=
  ds.foldl (fun n c => base * n +
    (if c.isDigit then c.toNat - 48 else if c.isLower then c.toNat - 87 else c.toNat - 55)) 0

/-- A whole number with a mark for its base. -/
def basedInteger? : List Char → Option (Value × List Char)
  | '0' :: 'x' :: cs =>
    (digits? (fun c => c.isDigit || ('a' ≤ c && c ≤ 'f') || ('A' ≤ c && c ≤ 'F')) cs).map
      fun (ds, rest) => (.whole (inBase 16 ds), rest)
  | '0' :: 'b' :: cs =>
    (digits? (fun c => c == '0' || c == '1') cs).map fun (ds, rest) => (.whole (inBase 2 ds), rest)
  | '0' :: 'o' :: cs =>
    (digits? (fun c => '0' ≤ c && c ≤ '7') cs).map fun (ds, rest) => (.whole (inBase 8 ds), rest)
  | _ => none

/-- The digits before the point: nought alone, or no leading nought. -/
def integerPart? : List Char → Option (List Char × List Char)
  | '0' :: cs => some (['0'], cs)
  | cs => digits? Char.isDigit cs

/-- A fraction after the point, if there is one. -/
def fractionPart (cs : List Char) : List Char × List Char :=
  match cs with
  | '.' :: rest => (digits? Char.isDigit rest).getD ([], cs)
  | _ => ([], cs)

/-- An exponent, if there is one. -/
def exponentPart (cs : List Char) : Option Int × List Char :=
  match cs with
  | c :: rest =>
    if c == 'e' || c == 'E' then
      let (negative, body) := match rest with
        | '-' :: r => (true, r)
        | '+' :: r => (false, r)
        | r => (false, r)
      match digits? Char.isDigit body with
      | some (ds, later) =>
        (some (if negative then -(inBase 10 ds : Int) else inBase 10 ds), later)
      | none => (none, cs)
    else (none, cs)
  | [] => (none, cs)

/-- A decimal number: whole unless it has a fraction or an exponent. Only whole ones are bound to
the digit limit. -/
def decimal? (cs : List Char) : Option (Except Fault (Value × List Char)) :=
  let (negative, body) := match cs with
    | '-' :: r => (true, r)
    | '+' :: r => (false, r)
    | r => (false, r)
  (integerPart? body).map fun (whole, rest) =>
    let (fraction, rest) := fractionPart rest
    let (exponent, rest) := exponentPart rest
    if fraction.isEmpty && exponent.isNone then
      if digitLimit < whole.length then .error (.longNumber whole.length)
      else
        let n : Int := inBase 10 whole
        .ok (.whole (if negative then -n else n), rest)
    else
      let x := scaled (inBase 10 (whole ++ fraction)) (exponent.getD 0 - fraction.length)
      .ok (.real (if negative then x.neg else x), rest)

/-- An infinity or the undefined quantity. -/
def special? (cs : List Char) : Option (Value × List Char) :=
  let (negative, body) := match cs with
    | '-' :: r => (true, r)
    | '+' :: r => (false, r)
    | r => (false, r)
  match after? "inf".toList body, after? "nan".toList body with
  | some rest, _ => some (.real (.infinite negative), rest)
  | _, some rest => some (.real .undefined, rest)
  | _, _ => none

/-- A number of exactly `width` digits. -/
def fixedDigits? : Nat → Nat → List Char → Option (Nat × List Char)
  | 0, acc, cs => some (acc, cs)
  | _ + 1, _, [] => none
  | width + 1, acc, c :: cs =>
    if c.isDigit then fixedDigits? width (10 * acc + (c.toNat - 48)) cs else none

/-- Up to six decimal places of a second, any further ones left aside. -/
def microseconds (cs : List Char) : Nat × List Char :=
  match cs with
  | '.' :: rest =>
    match rest.takeWhile Char.isDigit with
    | [] => (0, cs)
    | ds =>
      let kept := ds.take 6
      (inBase 10 (kept ++ List.replicate (6 - kept.length) '0'), rest.dropWhile Char.isDigit)
  | _ => (0, cs)

/-- A time of day. -/
def clock? (cs : List Char) : Option (ClockTime × List Char) := do
  let (hour, cs) ← fixedDigits? 2 0 cs
  let (minute, cs) ← fixedDigits? 2 0 (← Text.char? ':' cs)
  let (second, cs) ← fixedDigits? 2 0 (← Text.char? ':' cs)
  if hour > 23 || minute > 59 || second > 59 then none
  else
    let (micros, cs) := microseconds cs
    some (⟨hour, minute, second, micros⟩, cs)

/-- An offset from the reference time in minutes. -/
def offset? (cs : List Char) : Option (Int × List Char) :=
  match cs with
  | 'Z' :: rest => some (0, rest)
  | 'z' :: rest => some (0, rest)
  | c :: rest =>
    if c == '+' || c == '-' then do
      let (hour, cs) ← fixedDigits? 2 0 rest
      let (minute, cs) ← fixedDigits? 2 0 (← Text.char? ':' cs)
      if hour > 23 || minute > 59 then none
      else
        let total : Int := hour * 60 + minute
        some (if c == '-' then -total else total, cs)
    else none
  | [] => none

/-- The number of days of a month. -/
def daysInMonth (year month : Nat) : Nat :=
  if month == 2 then
    if year % 4 == 0 && (year % 100 != 0 || year % 400 == 0) then 29 else 28
  else if month == 4 || month == 6 || month == 9 || month == 11 then 30 else 31

/-- The shape of a date, whether or not there is such a day. -/
def datePart? (cs : List Char) : Option (CalendarDay × List Char) := do
  let (year, cs) ← fixedDigits? 4 0 cs
  let (month, cs) ← fixedDigits? 2 0 (← Text.char? '-' cs)
  let (day, cs) ← fixedDigits? 2 0 (← Text.char? '-' cs)
  if month < 1 || month > 12 || day < 1 || day > 31 then none else some (⟨year, month, day⟩, cs)

/-- A date with an optional time and offset. A date that does not exist is malformed, which the
inner option says. -/
def moment? (cs : List Char) : Option (Option (Value × List Char)) :=
  (datePart? cs).map fun (day, rest) =>
    if day.year == 0 || day.day > daysInMonth day.year day.month then none
    else
      let timed := do
        let (clock, later) ← clock? (← Text.oneOf? ['T', 't', ' '] rest)
        return match offset? later with
          | some (o, later) => (Value.moment (.instant day clock (some o)), later)
          | none => (Value.moment (.instant day clock none), later)
      some (timed.getD (.moment (.day day), rest))

/-- A number, date or time. -/
def scalarValue (cs : List Char) : Except Fault (Value × List Char) :=
  match moment? cs with
  | some outcome => required outcome
  | none =>
    match clock? cs with
    | some (clock, rest) => .ok (.moment (.time clock), rest)
    | none =>
      match basedInteger? cs, decimal? cs with
      | some found, _ => .ok found
      | none, some outcome => outcome
      | none, none => required (special? cs)

end CodeSmells.Toml
