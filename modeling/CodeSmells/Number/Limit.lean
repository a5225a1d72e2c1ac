/-!
The limit on the length of whole numbers. A whole number in decimal digits is neither read from a
text nor written into one when it is longer than the limit.
-/

set_option autoImplicit false

namespace CodeSmells

/-- The greatest number of decimal digits of a whole number in a text. -/
def digitLimit : Nat := 4300

/-- Whether a whole number is too long to be written in decimal digits. -/
def isLongNumber (n : Int) : Bool :=
  Nat.pow 10 digitLimit ≤ n.natAbs

/-- Why a number of so many digits is not read. -/
def unreadNumber (digits : Nat) : String :=
  "Exceeds the limit (" ++ toString digitLimit ++
    " digits) for integer string conversion: value has " ++ toString digits ++
    " digits; use sys.set_int_max_str_digits() to increase the limit"

/-- Why a long number is not written. -/
def unwrittenNumber : String :=
  "Exceeds the limit (" ++ toString digitLimit ++
    " digits) for integer string conversion; use sys.set_int_max_str_digits() to increase the limit"

/-- A whole number in decimal digits. -/
def writeWhole (n : Int) : Except String String :=
  if isLongNumber n then .error unwrittenNumber else .ok (toString n)

end CodeSmells
