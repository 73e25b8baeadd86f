import ChainHost.Decimal.Shortest

namespace ChainHost.Json

inductive Number where
  | integer (value : Int)
  | double (value : Double)
  deriving DecidableEq, Repr, Inhabited

-- A numeral of JSON's grammar, each part as the digits that stand in the text.
structure Numeral where
  negative : Bool
  whole : List Nat
  fraction : Option (List Nat)
  exponent : Option (Bool × List Nat)
  deriving DecidableEq, Repr

namespace Numeral

-- The greatest significand.
def maxSignificand : Nat := 0xFFFFFFFFFFFFFFFF

-- The least integer that is kept as one, without its sign.
def maxNegated : Nat := 0x8000000000000000

-- The greatest size of a written exponent.
def maxExponent : Nat := 0x7FFFFFFF

-- The greatest power of ten by which a significand is scaled in one step.
def scaleLimit : Nat := 308

-- Appends digits to a number as long as it stays within `limit`, and gives back the digits that are
-- left over.
def absorb (limit : Nat) : Nat → List Nat → Nat × List Nat
  | n, [] => (n, [])
  | n, d :: ds => if n * 10 + d ≤ limit then absorb limit (n * 10 + d) ds else (n, d :: ds)

-- Scales by `10 ^ exponent`. A step that leaves the range of doubles fails; a number that is zero
-- stays so.
def scale? (x : Double) (exponent : Int) : Option Double :=
  step (exponent.natAbs / scaleLimit + 1) x exponent
where
  step : Nat → Double → Int → Option Double
    | 0, x, _ => some x
    | fuel + 1, x, exponent =>
      if exponent.natAbs ≤ scaleLimit then do
        let power ← Double.powerOfTen? exponent.natAbs
        if exponent ≥ 0 then x.mul? power else x.div? power
      else if x.isZero then some x
      else if exponent ≥ 0 then none
      else do
        let power ← Double.powerOfTen? scaleLimit
        step fuel (← x.div? power) (exponent + scaleLimit)

-- The double of a significand and an exponent.
def double? (negative : Bool) (significand : Nat) (exponent : Int) : Option Double := do
  let x ← scale? (← Double.ofNat? significand) exponent
  return { x with negative }

def signed (negative : Bool) (n : Nat) : Int :=
  if negative then -n else n

-- The number that a numeral denotes: an integer, or a double whose digits are gathered into 64 bits and
-- then scaled in rounded steps, so that it can miss the nearest double. A numeral whose size is beyond
-- every double has none; the error is then the count of digits at its end that are not needed to see it.
def value (n : Numeral) : Except Nat Number :=
  let (significand, rest) := absorb maxSignificand 0 n.whole
  if n.fraction.isNone ∧ n.exponent.isNone ∧ rest.isEmpty then
    if ¬n.negative then .ok (.integer significand)
    else if significand = 0 ∨ significand > maxNegated then orTooLarge (double? true significand 0)
    else .ok (.integer (-significand))
  else
    let fraction := n.fraction.getD []
    let (significand, unread) := absorb maxSignificand significand fraction
    let start : Int := rest.length - ((fraction.length - unread.length : Nat) : Int)
    match n.exponent with
    | none => orTooLarge (double? n.negative significand start)
    | some (negativeExponent, digits) =>
      match absorb maxExponent 0 digits with
      | (size, []) =>
        orTooLarge (double? n.negative significand (start + signed negativeExponent size))
      | (_, _ :: further) =>
        if significand ≠ 0 ∧ ¬negativeExponent then .error further.length
        else .ok (.double { Double.zero with negative := n.negative })
where
  orTooLarge (x : Option Double) : Except Nat Number :=
    match x with
    | some x => .ok (.double x)
    | none => .error 0

end Numeral

-- The decimal exponents at which a double is written without an exponent.
def positional (exponent : Int) : Bool :=
  -5 ≤ exponent ∧ exponent ≤ 15

def digitsOf (n : Nat) : List Char :=
  Nat.toDigits 10 n

-- Writes digits whose first one stands for `10 ^ exponent` around a point, with at least one digit
-- on either side of it.
def writePositional (digits : List Char) (exponent : Int) : List Char :=
  if exponent < 0 then
    '0' :: '.' :: (List.replicate ((-exponent).toNat - 1) '0' ++ digits)
  else
    let size := exponent.toNat + 1
    let whole := digits.take size ++ List.replicate (size - digits.length) '0'
    let fraction := digits.drop size
    whole ++ '.' :: (if fraction.isEmpty then ['0'] else fraction)

-- Writes digits with one of them before the point, and an exponent with its sign.
def writeScientific (digits : List Char) (exponent : Int) : List Char :=
  let sign := if exponent < 0 then '-' else '+'
  let point := match digits with
    | d :: e :: ds => d :: '.' :: e :: ds
    | _ => digits
  point ++ 'e' :: sign :: digitsOf exponent.natAbs

-- The text of a double: the fewest digits that read back. Zero keeps its sign.
def writeDouble (x : Double) : List Char :=
  let d := x.shortest
  let digits := digitsOf d.digits
  let exponent := d.exponent + (digits.length : Int) - 1
  let size := if positional exponent then writePositional digits exponent
    else writeScientific digits exponent
  if x.negative then '-' :: size else size

def writeInteger : Int → List Char
  | .ofNat n => digitsOf n
  | .negSucc n => '-' :: digitsOf (n + 1)

-- The text of a number.
def Number.write : Number → List Char
  | integer i => writeInteger i
  | double x => writeDouble x

def Number.text (n : Number) : String :=
  String.ofList n.write

end ChainHost.Json
