import LocaleFamilies.Decimal.Nearest

/-! The shortest decimals. Among the decimals that round to a given binary number those with the
fewest digits are taken, and of these the nearest one. -/
namespace LocaleFamilies.Decimal

/-- The decimal `digits * 10 ^ exponent`. -/
structure Scientific where
  digits : Nat
  exponent : Int
  deriving DecidableEq, Repr

def less (first second : Nat × Nat) : Bool := first.1 * second.2 < second.1 * first.2

def equal (first second : Nat × Nat) : Bool := first.1 * second.2 == second.1 * first.2

namespace Scientific

def fraction (decimal : Scientific) : Nat × Nat :=
  (decimal.digits * Nat.pow 10 decimal.exponent.toNat, Nat.pow 10 (-decimal.exponent).toNat)

end Scientific

namespace Binary

/-- The end of the stretch that rounds to a number, above it. -/
def upperEnd (number : Binary) : Nat × Nat :=
  let half : Binary := ⟨2 * number.significand + 1, number.exponent - 1⟩
  (half.numerator, half.denominator)

/-- The end of the stretch that rounds to a number, below it. The numbers below the least significand
of 53 bits are closer together. -/
def lowerEnd (number : Binary) : Nat × Nat :=
  let half : Binary :=
    if number.significand = fullBits ∧ number.exponent > lowest then
      ⟨4 * number.significand - 1, number.exponent - 2⟩
    else ⟨2 * number.significand - 1, number.exponent - 1⟩
  (half.numerator, half.denominator)

/-- Whether a decimal rounds to a number. The ends of the stretch do if the significand is even. -/
def hasReading (number : Binary) (decimal : Scientific) : Bool :=
  let value := decimal.fraction
  let even := number.significand % 2 == 0
  (less number.lowerEnd value || (even && equal number.lowerEnd value)) &&
    (less value number.upperEnd || (even && equal value number.upperEnd))

/-- The power of ten of the first digit, found upward from a lower bound. -/
def firstDigitFrom (number : Binary) : Nat → Int → Int
  | 0, power => power
  | fuel + 1, power =>
    if less (number.numerator, number.denominator) (Scientific.mk 1 (power + 1)).fraction then power
    else firstDigitFrom number fuel (power + 1)

def firstDigit (number : Binary) : Int := firstDigitFrom number 700 (-330)

/-- The nearer of the two decimals with a last digit of the given power between which a number lies,
among those that round to it. -/
def onGrid? (number : Binary) (power : Int) : Option Scientific :=
  let numerator := number.numerator * Nat.pow 10 (-power).toNat
  let denominator := number.denominator * Nat.pow 10 power.toNat
  let below : Scientific := ⟨numerator / denominator, power⟩
  let above : Scientific := ⟨numerator / denominator + 1, power⟩
  let nearer := 2 * (numerator % denominator)
  match number.hasReading below, number.hasReading above with
  | true, true =>
    if nearer < denominator || (nearer == denominator && below.digits % 2 == 0) then some below
    else some above
  | true, false => some below
  | false, true => some above
  | false, false => none

def shortest (number : Binary) : Scientific :=
  let first := number.firstDigit
  ((List.range 17).findSome? fun count => number.onGrid? (first - (count : Nat))).getD
    ⟨number.significand, number.exponent⟩

end Binary

def trimmed : Nat → Scientific → Scientific
  | 0, decimal => decimal
  | fuel + 1, decimal =>
    if decimal.digits % 10 = 0 && decimal.digits != 0 then
      trimmed fuel ⟨decimal.digits / 10, decimal.exponent + 1⟩
    else decimal

end LocaleFamilies.Decimal
