/-!
Quantities: rational numbers with the two infinities, negative zero and the undefined quantity.
Measurements and thresholds are compared here exactly, so a whole number and a binary fraction
compare by their values however large they are. The undefined quantity compares with nothing.
-/

set_option autoImplicit false

namespace CodeSmells

/-- A rational number, a signed infinity, negative zero, or the undefined quantity. -/
inductive Quantity where
  | undefined
  | infinite (negative : Bool)
  | negativeZero
  | finite (value : Rat)
deriving DecidableEq, Inhabited

namespace Quantity

instance : Coe Rat Quantity := ⟨finite⟩

/-- A whole number as a quantity. -/
def ofInt (n : Int) : Quantity :=
  finite (n : Rat)

/-- A count as a quantity. -/
def ofNat (n : Nat) : Quantity :=
  finite (n : Rat)

/-- The rational value of a finite quantity; both zeros have the value zero. -/
def value? : Quantity → Option Rat
  | finite q => some q
  | negativeZero => some 0
  | _ => none

/-- Strictly smaller; false when either side is undefined. -/
def lt : Quantity → Quantity → Bool
  | undefined, _ => false
  | _, undefined => false
  | infinite m, infinite n => m && !n
  | infinite m, negativeZero => m
  | infinite m, finite _ => m
  | negativeZero, infinite n => !n
  | finite _, infinite n => !n
  | negativeZero, negativeZero => false
  | negativeZero, finite q => decide (0 < q)
  | finite p, negativeZero => decide (p < 0)
  | finite p, finite q => decide (p < q)

/-- Smaller or equal; false when either side is undefined. -/
def le : Quantity → Quantity → Bool
  | undefined, _ => false
  | _, undefined => false
  | x, y => !lt y x

/-- Whether the quantity is a whole number; infinities and the undefined quantity are not. -/
def isWhole (x : Quantity) : Bool :=
  match x.value? with
  | some q => q.den == 1
  | none => false

/-- The whole part toward zero of a finite quantity. -/
def toInt? (x : Quantity) : Option Int :=
  x.value?.map fun q => q.num.tdiv q.den

/-- The quantity without its sign. -/
def abs : Quantity → Quantity
  | undefined => undefined
  | infinite _ => infinite false
  | negativeZero => finite 0
  | finite q => finite (if q < 0 then -q else q)

/-- The quantity with the opposite sign. -/
def neg : Quantity → Quantity
  | undefined => undefined
  | infinite negative => infinite !negative
  | negativeZero => finite 0
  | finite q => if q == 0 then negativeZero else finite (-q)

end Quantity

end CodeSmells
