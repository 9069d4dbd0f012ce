import StackLexer.Text.Count

namespace StackLexer

-- A positive value in binary floating point of 64 bits. It is `mantissa * 2 ^ exponent`, and all
-- arithmetic on it is exact, on natural numbers.
structure Binary where
  mantissa : Nat
  exponent : Int
deriving DecidableEq, Repr

-- `digits * 10 ^ exponent`.
structure Decimal where
  digits : Nat
  exponent : Int
deriving DecidableEq, Repr

namespace Decimal

-- A ratio of naturals times a power.
def scale (base : Nat) (ratio : Nat × Nat) (exponent : Int) : Nat × Nat :=
  if 0 ≤ exponent then (ratio.1 * Nat.pow base exponent.toNat, ratio.2)
  else (ratio.1, ratio.2 * Nat.pow base (-exponent).toNat)

def ratio (decimal : Decimal) : Nat × Nat := scale 10 (decimal.digits, 1) decimal.exponent

-- The quotient rounded to the nearest natural, a tie to the even one.
def roundDiv (num den : Nat) : Nat :=
  let floor := num / den
  let twice := 2 * (num % den)
  if twice < den then floor
  else if twice = den then floor + floor % 2
  else floor + 1

-- The exponent of the last bit of a value near the ratio.
def lastBit (ratio : Nat × Nat) : Int :=
  let guess : Int := (Nat.log2 ratio.1 : Int) - Nat.log2 ratio.2 - 53
  let fits (e : Int) : Bool :=
    let (num, den) := scale 2 ratio (-e)
    num < den * Nat.pow 2 53
  let e := if fits guess then guess else if fits (guess + 1) then guess + 1 else guess + 2
  max e (-1074)

inductive Rounded where
  | zero
  | value (binary : Binary)
  | infinite
deriving DecidableEq, Repr

def nearest (ratio : Nat × Nat) : Rounded :=
  if ratio.1 = 0 then .zero
  else
    let e := lastBit ratio
    let (num, den) := scale 2 ratio (-e)
    let mantissa := roundDiv num den
    let binary : Binary :=
      if mantissa = Nat.pow 2 53 then ⟨Nat.pow 2 52, e + 1⟩ else ⟨mantissa, e⟩
    if mantissa = 0 then .zero
    else if 971 < binary.exponent then .infinite
    else .value binary

-- The nearest value. Exponents far out of range are told by the number of digits alone.
def round (decimal : Decimal) : Rounded :=
  let size : Int := (Nat.toDigits 10 decimal.digits).length + decimal.exponent
  if decimal.digits = 0 ∨ size < -400 then .zero
  else if 400 < size then .infinite
  else nearest decimal.ratio

end Decimal

namespace Binary

def ratio (binary : Binary) : Nat × Nat := Decimal.scale 2 (binary.mantissa, 1) binary.exponent

def mul (a b : Binary) : Decimal.Rounded :=
  Decimal.nearest (a.ratio.1 * b.ratio.1, a.ratio.2 * b.ratio.2)

def div (a b : Binary) : Decimal.Rounded :=
  Decimal.nearest (a.ratio.1 * b.ratio.2, a.ratio.2 * b.ratio.1)

-- The value between the ends of the interval that rounds to it, all over one denominator.
def interval (binary : Binary) : Nat × Nat × Nat × Nat :=
  let below := if binary.mantissa = Nat.pow 2 52 ∧ -1074 < binary.exponent then 1 else 2
  let (unit, den) := Decimal.scale 2 (1, 4) binary.exponent
  ((4 * binary.mantissa - below) * unit, 4 * binary.mantissa * unit,
    (4 * binary.mantissa + 2) * unit, den)

-- The decimal of the grid `10 ^ exponent` next to the value, if it rounds to the value.
def onGrid? (binary : Binary) (exponent : Int) : Option Decimal :=
  let (low, value, high, den) := binary.interval
  let (num, den') := Decimal.scale 10 (1, 1) (-exponent)
  let isInside (n : Nat) : Bool :=
    let scaled := n * den * den'
    if binary.mantissa % 2 = 0 then low * num ≤ scaled && scaled ≤ high * num
    else low * num < scaled && scaled < high * num
  let floor := value * num / (den * den')
  let nearest := Decimal.roundDiv (value * num) (den * den')
  let other := if nearest = floor then floor + 1 else floor
  if 0 < nearest && isInside nearest then some ⟨nearest, exponent⟩
  else if 0 < other && isInside other then some ⟨other, exponent⟩
  else none

-- The coarsest grid that has a decimal for the value.
def shortestFrom (binary : Binary) : (count : Nat) → (exponent : Int) → Decimal
  | 0, exponent => ⟨0, exponent⟩
  | count + 1, exponent => (binary.onGrid? exponent).getD (shortestFrom binary count (exponent - 1))

-- Order of magnitude: the value has this many decimal digits before the point, or one more.
def magnitude (binary : Binary) : Int :=
  ((Nat.log2 binary.mantissa : Int) + binary.exponent) * 30103 / 100000

-- The shortest decimal that reads back as the value.
def shortest (binary : Binary) : Decimal := binary.shortestFrom 22 (binary.magnitude + 2)

end Binary

-- How a value is written: positional notation ends above `maxPoint` and below `minPoint` digits
-- before the point; a value outside of it gets an exponent, which always has a sign.
structure RealStyle where
  minPoint : Int
  maxPoint : Int

namespace Decimal

def zeros (count : Int) : Text := List.replicate count.toNat '0'

def write (style : RealStyle) (decimal : Decimal) : Text :=
  let digits := Nat.toDigits 10 decimal.digits
  let length : Int := digits.length
  let point := length + decimal.exponent
  if point < style.minPoint ∨ style.maxPoint < point then
    let head := match digits with
      | [d] => [d]
      | d :: rest => d :: '.' :: rest
      | [] => []
    let exponent := point - 1
    head ++ 'e' :: (if exponent < 0 then '-' else '+') :: (toString exponent.natAbs).toList
  else if 0 ≤ decimal.exponent then digits ++ zeros decimal.exponent ++ ['.', '0']
  else if 0 < point then digits.take point.toNat ++ '.' :: digits.drop point.toNat
  else '0' :: '.' :: zeros (-point) ++ digits

end Decimal

-- A value that may be negative or zero.
structure Real where
  negative : Bool
  magnitude : Option Binary
deriving DecidableEq, Repr

namespace Real

def write (style : RealStyle) (real : Real) : Text :=
  let unsigned := match real.magnitude with
    | none => ['0', '.', '0']
    | some binary => binary.shortest.write style
  if real.negative then '-' :: unsigned else unsigned

-- The nearest value of a decimal, unless it is too large.
def ofDecimal? (negative : Bool) (decimal : Decimal) : Option Real :=
  match decimal.round with
  | .zero => some ⟨negative, none⟩
  | .value binary => some ⟨negative, some binary⟩
  | .infinite => none

end Real

end StackLexer
