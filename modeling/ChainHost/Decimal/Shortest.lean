import ChainHost.Decimal.Double

namespace ChainHost

-- The number `digits · 10 ^ exponent`.
structure Decimal where
  digits : Nat
  exponent : Int
  deriving DecidableEq, Repr, Inhabited

namespace Double

-- The reals that round to a double, and the double itself, as multiples of `1 / den`.
structure Interval where
  low : Nat
  value : Nat
  high : Nat
  den : Nat
  closed : Bool

-- The reals nearest to `x`. The gap below a power of two is half the gap above it, and a bound is
-- included when ties round to `x`.
def interval (x : Double) : Interval :=
  let (low, value, high) :=
    if x.mantissa = normalMantissa ∧ x.exponent > minExponent then
      (4 * x.mantissa - 1, 4 * x.mantissa, 4 * x.mantissa + 2)
    else
      (4 * x.mantissa - 2, 4 * x.mantissa, 4 * x.mantissa + 2)
  let quarter := x.exponent - 2
  let closed := x.mantissa % 2 == 0
  if quarter ≥ 0 then
    let unit := Nat.pow 2 quarter.toNat
    ⟨low * unit, value * unit, high * unit, 1, closed⟩
  else
    ⟨low, value, high, Nat.pow 2 (-quarter).toNat, closed⟩

namespace Interval

-- Whether `digits · 10 ^ exponent` lies in the interval.
def contains (i : Interval) (d : Decimal) : Bool :=
  let (n, den) :=
    if d.exponent ≥ 0 then (d.digits * Nat.pow 10 d.exponent.toNat * i.den, 1)
    else (d.digits * i.den, Nat.pow 10 (-d.exponent).toNat)
  if i.closed then i.low * den ≤ n && n ≤ i.high * den
  else i.low * den < n && n < i.high * den

-- The value in units of `10 ^ exponent`, as a quotient.
def inUnits (i : Interval) (exponent : Int) : Nat × Nat :=
  if exponent ≥ 0 then (i.value, i.den * Nat.pow 10 exponent.toNat)
  else (i.value * Nat.pow 10 (-exponent).toNat, i.den)

-- The point of the grid of `10 ^ exponent` that lies in the interval nearest to its value. Of two
-- at the same distance the even one is taken.
def nearest? (i : Interval) (exponent : Int) : Option Decimal :=
  let (n, d) := i.inUnits exponent
  let below := n / d
  let floor : Decimal := ⟨below, exponent⟩
  let ceiling : Decimal := ⟨below + 1, exponent⟩
  match i.contains floor, i.contains ceiling with
  | true, true => some (if roundDiv n d = below then floor else ceiling)
  | true, false => some floor
  | false, true => some ceiling
  | false, false => none

-- The number of digits of the value before its point, or minus the number of zeros after it.
def magnitude (i : Interval) : Int :=
  let whole := i.value / i.den
  if whole > 0 then (Nat.toDigits 10 whole).length
  else -(((Nat.toDigits 10 (i.den / i.value)).length : Int) - 1)

end Interval

-- Tries grids from `exponent` downwards, at most `fuel` of them.
def searchGrids (i : Interval) : Nat → Int → Decimal
  | 0, exponent => ⟨(i.inUnits exponent).1 / (i.inUnits exponent).2, exponent⟩
  | fuel + 1, exponent => (i.nearest? exponent).getD (searchGrids i fuel (exponent - 1))

-- Moves the zeros at the end of the digits into the exponent.
def dropZeros : Nat → Decimal → Decimal
  | 0, d => d
  | fuel + 1, d =>
    if d.digits ≠ 0 ∧ d.digits % 10 = 0 then dropZeros fuel ⟨d.digits / 10, d.exponent + 1⟩ else d

-- The fewest digits that read back as the absolute value of `x`, and of those the nearest.
def shortest (x : Double) : Decimal :=
  if x.mantissa = 0 then ⟨0, 0⟩
  else
    let i := x.interval
    dropZeros 20 (searchGrids i 20 (i.magnitude + 1))

end Double
end ChainHost
