import CodeSmells.Number.Quantity

/-!
Rounding to binary fractions of 53 significant bits and to decimal places. Both take the nearest
candidate, and a tie goes to the even one. The smallest unit is `2 ^ (-1074)`, and what would
reach `2 ^ 1024` becomes infinite.
-/

set_option autoImplicit false

namespace CodeSmells

/-- The whole number nearest to `num / den`; a tie goes to the even neighbour. -/
def roundDiv (num den : Nat) : Nat :=
  let low := num / den
  let twice := 2 * (num % den)
  if twice < den then low
  else if den < twice then low + 1
  else if low % 2 == 0 then low else low + 1

/-- The power `2 ^ e` as a rational number. -/
def twoPow (e : Int) : Rat :=
  if 0 ≤ e then ((Nat.pow 2 e.toNat : Nat) : Rat) else mkRat 1 (Nat.pow 2 (-e).toNat)

/-- The power `10 ^ e` as a rational number. -/
def tenPow (e : Int) : Rat :=
  if 0 ≤ e then ((Nat.pow 10 e.toNat : Nat) : Rat) else mkRat 1 (Nat.pow 10 (-e).toNat)

/-- The greatest `e` with `2 ^ e ≤ num / den`, for positive arguments. -/
def floorLog2 (num den : Nat) : Int :=
  let e : Int := (num.log2 : Int) - (den.log2 : Int)
  if twoPow e ≤ mkRat num den then e else e - 1

/-- The exponent of the last of 53 significant bits of `num / den`. -/
def unitExponent (num den : Nat) : Int :=
  max (-1074) (floorLog2 num den - 52)

/-- A count that can be divided by. -/
class Divisor (n : Nat) : Type where
  pos : 0 < n

instance (n : Nat) : Divisor (n + 1) := ⟨Nat.succ_pos n⟩

/-- The quotient of two counts; there is none by nought. -/
def quotient (num den : Nat) [Divisor den] : Rat :=
  mkRat num den

namespace Quantity

/-- The binary fraction nearest to a positive rational number. -/
def roundPositive (q : Rat) : Quantity :=
  let num := q.num.natAbs
  let e := unitExponent num q.den
  let m :=
    if 0 ≤ e then roundDiv num (q.den * Nat.pow 2 e.toNat)
    else roundDiv (num * Nat.pow 2 (-e).toNat) q.den
  let r := (m : Rat) * twoPow e
  if twoPow 1024 ≤ r then infinite false else finite r

/-- The binary fraction nearest to a rational number. -/
def ofRat (q : Rat) : Quantity :=
  if q == 0 then finite 0
  else if 0 < q then roundPositive q
  else neg (roundPositive (-q))

/-- The quotient of two counts as a binary fraction. -/
def ratio (num den : Nat) [Divisor den] : Quantity :=
  ofRat (quotient num den)

/-- The quantity rounded to a number of decimal places, and then to a binary fraction. -/
def roundPlaces (places : Nat) : Quantity → Quantity
  | finite q =>
    let scaled := roundDiv (q.num.natAbs * Nat.pow 10 places) q.den
    let r := ofRat (mkRat scaled (Nat.pow 10 places))
    if q < 0 then neg r else r
  | x => x

end Quantity

end CodeSmells
