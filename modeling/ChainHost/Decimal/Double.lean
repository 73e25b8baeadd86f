namespace ChainHost

-- The number `± mantissa · 2 ^ exponent`. An operation on such numbers is the exact one on rationals,
-- rounded once to the nearest double.
structure Double where
  negative : Bool
  mantissa : Nat
  exponent : Int
  deriving DecidableEq, Repr, Inhabited

namespace Double

-- The least exponent; the doubles that have it include zero and the subnormal numbers.
def minExponent : Int := -1074

-- The greatest exponent.
def maxExponent : Int := 971

-- The number of mantissas, `2 ^ 53`.
def mantissaLimit : Nat := 0x20000000000000

-- A normal mantissa reaches `2 ^ 52`.
def normalMantissa : Nat := 0x10000000000000

-- The form that every double computed here has: the mantissa fits, and it is normal unless
-- the exponent is the least.
structure Canonical (x : Double) : Prop where
  mantissa_lt : x.mantissa < mantissaLimit
  minExponent_le : minExponent ≤ x.exponent
  exponent_le : x.exponent ≤ maxExponent
  normal : normalMantissa ≤ x.mantissa ∨ x.exponent = minExponent

def zero : Double := ⟨false, 0, minExponent⟩

def neg (x : Double) : Double :=
  { x with negative := !x.negative }

def isZero (x : Double) : Bool :=
  x.mantissa == 0

-- `num / den` to the nearest natural number, a tie to the even one.
def roundDiv (num den : Nat) : Nat :=
  let quotient := num / den
  let twice := 2 * (num % den)
  if twice > den || (twice == den && quotient % 2 == 1) then quotient + 1 else quotient

-- `num / den · 2 ^ (-exponent)` as a quotient of natural numbers.
def scaled (num den : Nat) (exponent : Int) : Nat × Nat :=
  if exponent ≥ 0 then (num, den * Nat.pow 2 exponent.toNat)
  else (num * Nat.pow 2 (-exponent).toNat, den)

-- The exponent at which `num / den` has a mantissa of 53 bits, or the least one.
def exponentFor (num den : Nat) : Int :=
  let guess := max ((Nat.log2 num : Int) - Nat.log2 den - 53) minExponent
  let (n, d) := scaled num den guess
  if n / d ≥ mantissaLimit then guess + 1 else guess

-- The double nearest to `num / den`, if that is not beyond the greatest double.
def ofRatio? (negative : Bool) (num den : Nat) : Option Double :=
  if num = 0 then some { zero with negative }
  else
    let exponent := exponentFor num den
    let (n, d) := scaled num den exponent
    let mantissa := roundDiv n d
    let rounded : Double :=
      if mantissa ≥ mantissaLimit then ⟨negative, normalMantissa, exponent + 1⟩
      else ⟨negative, mantissa, exponent⟩
    if rounded.exponent > maxExponent then none else some rounded

-- The absolute value as a quotient of natural numbers.
def ratio (x : Double) : Nat × Nat :=
  if x.exponent ≥ 0 then (x.mantissa * Nat.pow 2 x.exponent.toNat, 1)
  else (x.mantissa, Nat.pow 2 (-x.exponent).toNat)

def ofNat? (n : Nat) : Option Double :=
  ofRatio? false n 1

def mul? (x y : Double) : Option Double :=
  let (a, b) := x.ratio
  let (c, d) := y.ratio
  ofRatio? (x.negative != y.negative) (a * c) (b * d)

-- The quotient by a double that is not zero.
def div? (x y : Double) : Option Double :=
  let (a, b) := x.ratio
  let (c, d) := y.ratio
  ofRatio? (x.negative != y.negative) (a * d) (b * c)

-- The double nearest to `10 ^ n`, if that is in range.
def powerOfTen? (n : Nat) : Option Double :=
  ofNat? (Nat.pow 10 n)

theorem neg_neg (x : Double) : x.neg.neg = x := by
  simp [neg]

@[simp]
theorem isZero_zero : zero.isZero = true :=
  rfl

end Double
end ChainHost
