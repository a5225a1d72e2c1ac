import CodeSmells.Number.Binary

/-!
The written form of quantities. A binary fraction is written with the fewest decimal digits that
read back as the same fraction, and of those the digits nearest to it. Positional notation is
used from `10 ^ (-4)` up to below `10 ^ 16`; other values take an exponent with a sign and at
least two digits.
-/

set_option autoImplicit false

namespace CodeSmells

/-- The greatest `e` with `10 ^ e ≤ q`, found from an estimate at most `fuel` steps too low. -/
def floorLog10From (q : Rat) : Nat → Int → Int
  | 0, e => e
  | fuel + 1, e => if tenPow (e + 1) ≤ q then floorLog10From q fuel (e + 1) else e

/-- The greatest `e` with `10 ^ e ≤ q`, for positive `q`. -/
def floorLog10 (q : Rat) : Int :=
  let bits := floorLog2 q.num.natAbs q.den
  floorLog10From q 4 (Int.fdiv (bits * 30103) 100000 - 2)

/-- The value of the number `digits` whose last digit stands for `10 ^ last`. -/
def decimalValue (digits : Nat) (last : Int) : Rat :=
  (digits : Rat) * tenPow last

/-- The decimals with unit `10 ^ last` next to `q` that read back as `q`, the nearer one first. -/
def readingBack (q : Rat) (last : Int) : List Nat :=
  let scaled := q * tenPow (-last)
  let low := scaled.floor.toNat
  let below := scaled - (low : Rat)
  let nearer := if below < mkRat 1 2 || (below == mkRat 1 2 && low % 2 == 0) then [low, low + 1]
    else [low + 1, low]
  nearer.filter fun d => Quantity.ofRat (decimalValue d last) == .finite q

/-- Tries `count` significant digits, then one more, up to `fuel` times. -/
def shortestFrom (q : Rat) (top : Int) : Nat → Nat → Nat × Int
  | 0, count => ((q * tenPow (count - top)).floor.toNat, top - count)
  | fuel + 1, count =>
    let last := top - (count - 1 : Nat)
    match readingBack q last with
    | d :: _ => (d, last)
    | [] => shortestFrom q top fuel (count + 1)

/-- The shortest decimal that reads back as the positive binary fraction `q`. -/
def shortest (q : Rat) : Nat × Int :=
  shortestFrom q (floorLog10 q) 17 1

/-- Moves trailing zeros of the digits into the exponent. -/
def dropZeros : Nat → Nat × Int → Nat × Int
  | 0, d => d
  | fuel + 1, (digits, last) =>
    if digits != 0 && digits % 10 == 0 then dropZeros fuel (digits / 10, last + 1) else (digits, last)

/-- How exact decimals are laid out in a text. -/
structure DecimalLayout where
  /-- Positional notation starts at this exponent of the first digit. -/
  leastPositional : Int
  /-- Exponents from here on are written out. -/
  exponentFrom : Int
  /-- The least number of digits of an exponent. -/
  exponentDigits : Nat

/-- The layout of every number this program writes. -/
def plainLayout : DecimalLayout :=
  ⟨-4, 16, 2⟩

/-- Fills a number up with leading zeros. -/
def padZeros (width n : Nat) : List Char :=
  let ds := Nat.toDigits 10 n
  List.replicate (width - ds.length) '0' ++ ds

/-- The text of a positive decimal. -/
def DecimalLayout.render (layout : DecimalLayout) (digits : Nat) (last : Int) : List Char :=
  let ds := Nat.toDigits 10 digits
  let top := last + (ds.length : Int) - 1
  if top < layout.leastPositional || layout.exponentFrom ≤ top then
    let point := if ds.length ≤ 1 then ds else ds.take 1 ++ '.' :: ds.drop 1
    let sign := if top < 0 then '-' else '+'
    point ++ 'e' :: sign :: padZeros layout.exponentDigits top.natAbs
  else if 0 ≤ last then
    ds ++ List.replicate last.toNat '0' ++ ['.', '0']
  else if 0 ≤ top then
    ds.take (top.toNat + 1) ++ '.' :: ds.drop (top.toNat + 1)
  else
    '0' :: '.' :: List.replicate (-top - 1).toNat '0' ++ ds

namespace Quantity

/-- The text of a positive binary fraction. -/
def renderPositive (q : Rat) : List Char :=
  let (digits, last) := dropZeros 20 (shortest q)
  plainLayout.render digits last

/-- The text of a quantity. -/
def render : Quantity → String
  | undefined => "nan"
  | infinite false => "inf"
  | infinite true => "-inf"
  | negativeZero => "-0.0"
  | finite q =>
    if q == 0 then "0.0"
    else if 0 < q then String.ofList (renderPositive q)
    else String.ofList ('-' :: renderPositive (-q))

end Quantity

end CodeSmells
