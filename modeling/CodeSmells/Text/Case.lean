import CodeSmells.Text.Ranges
import CodeSmells.Text.CaseData

/-!
Lower case forms and upper case tests for every script. A capital sigma becomes a final sigma
exactly when a cased character stands before it and none after it, characters that case rules
look past left aside.
-/

set_option autoImplicit false

namespace CodeSmells.Text

/-- Upper case characters of any script. -/
def isUpper (c : Char) : Bool :=
  if c.toNat < 128 then c.isUpper else inRuns upperRuns c.toNat

/-- Lower case and title case characters of any script. -/
def isLower (c : Char) : Bool :=
  if c.toNat < 128 then c.isLower else inRuns lowerRuns c.toNat

/-- Characters with case. -/
def isCased (c : Char) : Bool :=
  isUpper c || isLower c

/-- Characters that case rules look past. -/
def isCaseIgnorable (c : Char) : Bool :=
  inRanges caseIgnorableRanges c.toNat

/-- Whether the first character that is not looked past has case. -/
def meetsCased (cs : List Char) : Bool :=
  match cs.dropWhile isCaseIgnorable with
  | [] => false
  | c :: _ => isCased c

/-- The lower case form of one character that stands between `before` (reversed) and `later`. -/
def lowerChar (before : List Char) (c : Char) (later : List Char) : List Char :=
  let n := c.toNat
  if n < 128 then [c.toLower]
  else if n == 0x130 then ['i', Char.ofNat 0x307]
  else if n == 0x3a3 then
    if meetsCased before && !meetsCased later then [Char.ofNat 0x3c2] else [Char.ofNat 0x3c3]
  else
    match lowerOffsets.find? fun (lo, hi, step, _) => lo ≤ n && n ≤ hi && (n - lo) % step == 0 with
    | some (_, _, _, offset) => [Char.ofNat (n + offset).toNat]
    | none => [c]

/-- The lower case form of a text whose part `before` (reversed) has already been read. -/
def lowerFrom (before : List Char) : List Char → List Char
  | [] => []
  | c :: cs => lowerChar before c cs ++ lowerFrom (c :: before) cs

/-- The lower case form of a text. -/
def lower (cs : List Char) : List Char :=
  lowerFrom [] cs

/-- The lower case form of a string. -/
def lowercase (s : String) : String :=
  String.ofList (lower s.toList)

/-- Whether a text has an upper case character and no cased character of another kind. -/
def allUpper (cs : List Char) : Bool :=
  cs.any isUpper && !cs.any isLower

/-- Whether a text starts with an upper case character. -/
def startsUpper (s : String) : Bool :=
  match s.toList with
  | [] => false
  | c :: _ => isUpper c

end CodeSmells.Text
