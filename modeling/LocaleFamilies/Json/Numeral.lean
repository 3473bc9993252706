import LocaleFamilies.Decimal.Shortest

/-! Numerals in documents. Nothing in a configuration or a request is a number, so numerals are only
told apart and shown in diagnostics: whole numbers of 64 bits by their digits, all others by the
shortest decimal of the number that they are rounded to. -/
namespace LocaleFamilies.Json

open Decimal

structure Numeral where
  negative : Bool
  whole : List Char
  fraction : List Char
  scale : Option (Bool × List Char)
  deriving DecidableEq, Repr

namespace Numeral

def digit (c : Char) : Nat := c.toNat - '0'.toNat

def significandLimit : Nat := Nat.pow 2 64 - 1

/-- The significand of some digits after others, as far as they fit, and how many of them do. -/
def gather (significand : Nat) : List Char → Nat × Nat
  | [] => (significand, 0)
  | c :: rest =>
    let next := significand * 10 + digit c
    if next > significandLimit then (significand, 0)
    else
      let (last, count) := gather next rest
      (last, count + 1)

/-- The exponents past which only zero is in range. -/
def scaleLimit : Nat := Nat.pow 2 31 - 1

def power (digits : List Char) : Nat := digits.foldl (fun n c => n * 10 + digit c) 0

/-- A number times a power of ten. A power too large to be a number itself is applied in steps. -/
def scaled? : Nat → Binary → Int → Option Binary
  | 0, _, _ => none
  | fuel + 1, number, exponent =>
    if exponent.natAbs ≤ 308 then
      match Binary.nearest? (Nat.pow 10 exponent.natAbs) 1 with
      | some power => if exponent ≥ 0 then number.mul? power else number.div? power
      | none => none
    else if number.significand = 0 then some number
    else if exponent ≥ 0 then none
    else
      match Binary.nearest? (Nat.pow 10 308) 1 with
      | some power => (number.div? power).bind fun number => scaled? fuel number (exponent + 308)
      | none => none

def magnitude? (numeral : Numeral) : Option Binary :=
  let (whole, wholeCount) := gather 0 numeral.whole
  let (significand, fractionCount) := gather whole numeral.fraction
  let exponent : Int := (numeral.whole.length - wholeCount : Nat) - (fractionCount : Nat)
  match numeral.scale with
  | none => (Binary.ofNat? significand).bind fun number => scaled? 16 number exponent
  | some (negative, digits) =>
    if power digits > scaleLimit then
      if significand = 0 || negative then some ⟨0, Binary.lowest⟩ else none
    else
      let shift : Int := if negative then -(power digits : Nat) else (power digits : Nat)
      let exponent := exponent + shift
      if exponent < -1000 then some ⟨0, Binary.lowest⟩
      else (Binary.ofNat? significand).bind fun number => scaled? 16 number exponent

/-- The whole number of 64 bits that a numeral is, if it has neither fraction nor exponent. -/
def integer? (numeral : Numeral) : Option Int :=
  if numeral.fraction.isEmpty && numeral.scale.isNone then
    let n := power numeral.whole
    if numeral.negative then
      if n ≠ 0 ∧ n ≤ Nat.pow 2 63 then some (-(n : Int)) else none
    else if n ≤ significandLimit then some n else none
  else none

/-- A decimal in words of digits: positional unless the number is very small or very large. -/
def decimalText (decimal : Scientific) : String :=
  let decimal := trimmed 20 decimal
  let digits := Nat.toDigits 10 decimal.digits
  let first : Int := decimal.exponent + (digits.length : Int) - 1
  let zeros (count : Int) : List Char := List.replicate count.toNat '0'
  String.ofList <|
    if first < -5 ∨ first > 15 then
      digits.take 1 ++ (if digits.length > 1 then '.' :: digits.drop 1 else []) ++
        ['e', if first < 0 then '-' else '+'] ++ Nat.toDigits 10 first.natAbs
    else if first < 0 then '0' :: '.' :: zeros (-first - 1) ++ digits
    else if decimal.exponent ≥ 0 then digits ++ zeros decimal.exponent ++ ['.', '0']
    else digits.take (first.toNat + 1) ++ '.' :: digits.drop (first.toNat + 1)

/-- How a diagnostic calls a numeral; nothing if it is out of range. -/
def description? (numeral : Numeral) : Option String :=
  match numeral.integer? with
  | some n => some ("integer `" ++ toString n ++ "`")
  | none => numeral.magnitude?.map fun number =>
      let sign := if numeral.negative then "-" else ""
      let digits := if number.significand = 0 then "0.0" else decimalText number.shortest
      "floating point `" ++ sign ++ digits ++ "`"

end Numeral

end LocaleFamilies.Json
