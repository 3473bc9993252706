import LocaleFamilies.Decimal.Nearest
import LocaleFamilies.Shell.Arithmetic

/-! The text of values in formats. A directive in a format begins with a percent sign; flags, a width and
a precision say how the value of an argument is laid out. -/
namespace LocaleFamilies.Shell

structure Layout where
  flags : List Char
  width : Nat
  precision : Option Nat

namespace Layout

def bare : Layout := ⟨[], 0, none⟩

def has (layout : Layout) (flag : Char) : Bool := layout.flags.contains flag

def padded (layout : Layout) (text : Octets) : Octets :=
  let blanks := List.replicate (layout.width - text.length) ' '
  if layout.has '-' then text ++ blanks else blanks ++ text

def paddedNumber (layout : Layout) (zeros : Bool) (sign digits : Octets) : Octets :=
  if zeros && layout.has '0' && !layout.has '-' then
    sign ++ List.replicate (layout.width - sign.length - digits.length) '0' ++ digits
  else layout.padded (sign ++ digits)

def sign (layout : Layout) (negative : Bool) : Octets :=
  if negative then ['-'] else if layout.has '+' then ['+'] else if layout.has ' ' then [' '] else []

def ofText (layout : Layout) (text : Octets) : Octets :=
  layout.padded (match layout.precision with
    | some count => text.take count
    | none => text)

def digits (base n : Nat) : Octets := Nat.toDigits base n

def filled (layout : Layout) (digits : Octets) : Octets :=
  match layout.precision with
  | some 0 => if digits == ['0'] then [] else digits
  | some count => List.replicate (count - digits.length) '0' ++ digits
  | none => digits

def ofInt (layout : Layout) (value : Int) : Octets :=
  layout.paddedNumber layout.precision.isNone (layout.sign (value < 0))
    (layout.filled (digits 10 value.natAbs))

def ofNat (layout : Layout) (conversion : Char) (value : Nat) : Octets :=
  let base := if conversion == 'o' then 8 else if conversion == 'u' then 10 else 16
  let plain := layout.filled (digits base value)
  let plain := if conversion == 'o' && layout.has '#' && plain.head? != some '0' then '0' :: plain
    else plain
  let lead : Octets := if base == 16 && layout.has '#' && value != 0 then ['0', 'x'] else []
  let upper (text : Octets) : Octets :=
    if conversion == 'X' then text.map Char.toUpper else text
  layout.paddedNumber layout.precision.isNone (upper lead) (upper plain)

end Layout

structure Figure where
  negative : Bool
  numerator : Nat
  denominator : Nat

namespace Figure

def narrowed (bits : Nat) (figure : Figure) : Figure :=
  if figure.numerator == 0 then figure
  else
    let guess := (Nat.log2 figure.numerator : Int) - Nat.log2 figure.denominator - (bits - 1 : Nat)
    let scaled (exponent : Int) : Nat × Nat :=
      (figure.numerator * Nat.pow 2 (-exponent).toNat, figure.denominator * Nat.pow 2 exponent.toNat)
    let (above, below) := scaled guess
    let exponent := if above < Nat.pow 2 (bits - 1) * below then guess - 1 else guess
    let (above, below) := scaled exponent
    ⟨figure.negative, Decimal.Binary.rounded above below * Nat.pow 2 exponent.toNat,
      Nat.pow 2 (-exponent).toNat⟩

def text (layout : Layout) (figure : Figure) : Octets :=
  let places := layout.precision.getD 6
  let digits := Octets.ofNat
    (Decimal.Binary.rounded (figure.numerator * Nat.pow 10 places) figure.denominator)
  let digits := List.replicate (places + 1 - digits.length) '0' ++ digits
  let whole := digits.take (digits.length - places)
  layout.paddedNumber true (layout.sign figure.negative)
    (if places == 0 then whole else whole ++ '.' :: digits.drop whole.length)

def read? (text : Octets) : Option (Figure × Octets) :=
  let (negative, text) := match text with
    | '-' :: rest => (true, rest)
    | '+' :: rest => (false, rest)
    | rest => (false, rest)
  let whole := text.takeWhile Char.isDigit
  let (fraction, rest) := match text.drop whole.length with
    | '.' :: rest => (rest.takeWhile Char.isDigit, rest.dropWhile Char.isDigit)
    | rest => ([], rest)
  (Octets.nat? (whole ++ fraction)).map fun value => (⟨negative, value, Nat.pow 10 fraction.length⟩, rest)

end Figure

/-- A directive as it is written: its flags, its width and precision, each of which may be left to an
argument, and its letter if there is one. -/
structure Directive where
  flags : List Char
  width : Option Nat
  precision : Option (Option Nat)
  letter : Option Char
  spelling : Octets

def countAt (text : Octets) : Option Nat × Octets :=
  match text with
  | '*' :: rest => (none, rest)
  | text =>
    let (value, count) := Arithmetic.digits 10 text
    (some value, text.drop count)

/-- The directive after a percent sign, and what follows. The letters in a set count for nothing. -/
def directiveAt (idle : List Char) (text : Octets) : Directive × Octets :=
  let flags := text.takeWhile "#-+ 0".toList.contains
  let (width, rest) := countAt (text.drop flags.length)
  let (precision, rest) := match rest with
    | '.' :: rest =>
      let (precision, rest) := countAt rest
      (some precision, rest)
    | rest => (none, rest)
  let rest := rest.dropWhile idle.contains
  (⟨flags, width, precision, rest.head?, text.take (text.length - rest.length + 1)⟩, rest.drop 1)

def letterEscape? (c : Char) : Option Char :=
  match c with
  | 'a' => some (Char.ofNat 0x07)
  | 'b' => some (Char.ofNat 0x08)
  | 'e' => some (Char.ofNat 0x1b)
  | 'f' => some (Char.ofNat 0x0c)
  | 'n' => some '\n'
  | 'r' => some '\r'
  | 't' => some '\t'
  | 'v' => some (Char.ofNat 0x0b)
  | '\\' => some '\\'
  | _ => none

def octalAt (limit : Nat) (text : Octets) : Char × Octets :=
  let found := (text.take limit).takeWhile fun c => '0' ≤ c && c ≤ '7'
  let value := found.foldl (fun n c => n * 8 + (c.toNat - 48)) 0
  (Char.ofNat (value % 256), text.drop found.length)

end LocaleFamilies.Shell
