import StackLexer.Document.Decimal
import StackLexer.Document.Node

namespace StackLexer.Json

-- The digits that were taken, and the power of ten that they count in.
structure Significand where
  value : Nat
  exponent : Int
deriving DecidableEq, Repr

namespace Significand

-- The value with one more digit, if it fits 64 bits.
def push? (value : Nat) (digit : Char) : Option Nat :=
  let next := value * 10 + (Text.digit? 10 digit).getD 0
  if next < Nat.pow 2 64 then some next else none

-- Takes digits in front of the point. Those that do not fit are counted.
def takeWhole (value : Nat) : Text → Significand
  | [] => ⟨value, 0⟩
  | digit :: rest => match push? value digit with
    | some next => takeWhole next rest
    | none => ⟨value, rest.length + 1⟩

-- Takes digits behind the point. Those that do not fit are dropped.
def takePart (significand : Significand) : Text → Significand
  | [] => significand
  | digit :: rest => match push? significand.value digit with
    | some next => takePart ⟨next, significand.exponent - 1⟩ rest
    | none => significand

def tenTo (exponent : Nat) : Decimal.Rounded := Decimal.round ⟨1, exponent⟩

-- The largest power of ten that is a value.
def maxPower : Nat := 308

-- A value times a power of ten. A far negative power is divided out in parts, of which the first
-- ones leave zero.
def scaleBy (exponent : Int) : (fuel : Nat) → Binary → Decimal.Rounded
  | 0, _ => .zero
  | fuel + 1, value =>
      match tenTo (Nat.min exponent.natAbs maxPower) with
      | .value power =>
          if exponent.natAbs ≤ maxPower then
            if 0 ≤ exponent then value.mul power else value.div power
          else if 0 ≤ exponent then .infinite
          else match value.div power with
            | .value next => scaleBy (exponent + maxPower) fuel next
            | rounded => rounded
      | rounded => rounded

-- A number in binary floating point: as many of its digits as fit 64 bits are taken for an integer,
-- which is then multiplied or divided by a power of ten. Every step rounds, so the result can be
-- off by a bit from the value nearest to the number.
def toRounded (significand : Significand) : Decimal.Rounded :=
  match Decimal.nearest (significand.value, 1) with
  | .value binary => scaleBy significand.exponent 4 binary
  | rounded => rounded

end Significand

-- A number as it is written. The exponent is left out or has digits.
structure NumberText where
  isNegative : Bool
  whole : Text
  part : Option Text
  exponent : Option (Bool × Text)

namespace NumberText

-- Exponents that do not fit 32 bits are as large as can be.
def maxExponent : Nat := Nat.pow 2 31 - 1

def exponentOf? (digits : Text) : Option Nat :=
  (Text.digits? 10 digits).bind fun n => if n ≤ maxExponent then some n else none

-- How numbers that are not integers are shown.
def realStyle : RealStyle := ⟨-4, 16⟩

def meaningOf (isNegative : Bool) : Decimal.Rounded → Meant
  | .infinite => .error .outOfRange
  | .zero => .ok (.real (Real.write realStyle ⟨isNegative, none⟩))
  | .value binary => .ok (.real (Real.write realStyle ⟨isNegative, some binary⟩))

def real (number : NumberText) : Meant :=
  let significand := (Significand.takeWhole 0 number.whole).takePart (number.part.getD [])
  let shifted (exponent : Int) : Decimal.Rounded :=
    Significand.toRounded ⟨significand.value, significand.exponent + exponent⟩
  meaningOf number.isNegative <| match number.exponent with
    | none => shifted 0
    | some (isDown, digits) => match exponentOf? digits with
      | some n => shifted (if isDown then -n else n)
      | none => if isDown ∨ significand.value = 0 then .zero else .infinite

-- An integer of 64 bits is one; a zero with a minus sign is not.
def meaning (number : NumberText) : Meant :=
  match number.part, number.exponent, Text.digits? 10 number.whole with
  | none, none, some n =>
      if !number.isNegative && n < Nat.pow 2 64 then .ok (.natural n)
      else if number.isNegative && 0 < n && n ≤ Nat.pow 2 63 then .ok (.negative n)
      else number.real
  | _, _, _ => number.real

end NumberText

def fraction? (text : Text) : Option (Option Text × Text) :=
  match text with
  | '.' :: rest =>
      let digits := rest.takeWhile Char.isDigit
      if digits.isEmpty then none else some (some digits, rest.dropWhile Char.isDigit)
  | _ => some (none, text)

-- An exponent, if one is there, and whether it counts down.
def exponent? (text : Text) : Option (Option (Bool × Text) × Text) :=
  match text with
  | c :: rest =>
      if c = 'e' || c = 'E' then
        let (isDown, rest) := match rest with
          | '-' :: rest => (true, rest)
          | '+' :: rest => (false, rest)
          | _ => (false, rest)
        let digits := rest.takeWhile Char.isDigit
        if digits.isEmpty then none else some (some (isDown, digits), rest.dropWhile Char.isDigit)
      else some (none, text)
  | [] => some (none, [])

-- A number and the text behind it. No zero stands in front of other digits.
def number? (text : Text) : Option (NumberText × Text) := do
  let (isNegative, unsigned) := match text with
    | '-' :: rest => (true, rest)
    | _ => (false, text)
  let whole := unsigned.takeWhile Char.isDigit
  if whole.isEmpty || (whole.head? == some '0' && 1 < whole.length) then none
  else
    let (part, rest) ← fraction? (unsigned.dropWhile Char.isDigit)
    let (exponent, rest) ← exponent? rest
    return (⟨isNegative, whole, part, exponent⟩, rest)

end StackLexer.Json
