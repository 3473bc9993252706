/-! Rounding to numbers with a significand of 53 bits. A quotient is rounded to the nearest such
number, and a tie goes to the even significand; a quotient past the largest one is refused. -/
namespace LocaleFamilies.Decimal

/-- The number `significand * 2 ^ exponent`. -/
structure Binary where
  significand : Nat
  exponent : Int
  deriving DecidableEq, Repr

namespace Binary

def lowest : Int := -1074

def highest : Int := 971

def fullBits : Nat := Nat.pow 2 52

def numerator (number : Binary) : Nat := number.significand * Nat.pow 2 number.exponent.toNat

def denominator (number : Binary) : Nat := Nat.pow 2 (-number.exponent).toNat

/-- The quotient rounded to a whole number, a tie to the even one. -/
def rounded (numerator denominator : Nat) : Nat :=
  let whole := numerator / denominator
  let twice := 2 * (numerator % denominator)
  if twice > denominator || (twice == denominator && whole % 2 == 1) then whole + 1 else whole

/-- The exponent with which the significand of a quotient has 53 bits. -/
def exponentOf (numerator denominator : Nat) : Int :=
  let guess := (Nat.log2 numerator : Int) - Nat.log2 denominator - 52
  let scaled := numerator * Nat.pow 2 (-guess).toNat
  let full := fullBits * denominator * Nat.pow 2 guess.toNat
  if scaled < full then guess - 1 else guess

def nearest? (numerator denominator : Nat) : Option Binary :=
  if numerator = 0 then some ⟨0, lowest⟩
  else
    let exponent := max lowest (exponentOf numerator denominator)
    let significand :=
      rounded (numerator * Nat.pow 2 (-exponent).toNat) (denominator * Nat.pow 2 exponent.toNat)
    let number : Binary :=
      if significand = 2 * fullBits then ⟨fullBits, exponent + 1⟩ else ⟨significand, exponent⟩
    if number.exponent > highest then none else some number

def ofNat? (n : Nat) : Option Binary := nearest? n 1

def mul? (first second : Binary) : Option Binary :=
  nearest? (first.numerator * second.numerator) (first.denominator * second.denominator)

def div? (first second : Binary) : Option Binary :=
  nearest? (first.numerator * second.denominator) (first.denominator * second.numerator)

end Binary

end LocaleFamilies.Decimal
