import LocaleFamilies.Bytes
import LocaleFamilies.Path.Basic

/-! The texts that programs exchange. Programs work on bytes, and each byte is written here as the
character with its number, so that a script or a line can be told in characters whatever it holds. -/
namespace LocaleFamilies.Shell

def pieces {α : Type} (test : α → Bool) (list : List α) : List (List α) :=
  let (first, rest) := list.foldr (fun a (first, rest) =>
    if test a then ([], first :: rest) else (a :: first, rest)) ([], [])
  first :: rest

/-- Bytes, each written as the character with its number. -/
abbrev Octets := List Char

namespace Octets

def ofBytes (bytes : Bytes) : Octets := bytes.map fun byte => Char.ofNat byte.toNat

def toBytes (text : Octets) : Bytes := text.map fun c => c.toNat.toUInt8

def ofText (text : String) : Octets := ofBytes (Bytes.ofText text)

def path (octets : Octets) : Path := ⟨octets.toBytes⟩

def ofNat (n : Nat) : Octets := Nat.toDigits 10 n

def ofInt (n : Int) : Octets := if n < 0 then '-' :: ofNat n.natAbs else ofNat n.natAbs

def nat? (octets : Octets) : Option Nat :=
  if octets.isEmpty || !octets.all Char.isDigit then none
  else some (octets.foldl (fun n c => n * 10 + (c.toNat - 48)) 0)

def int? : Octets → Option Int
  | '-' :: digits => (nat? digits).map fun n => -(n : Int)
  | '+' :: digits => (nat? digits).map fun n => (n : Int)
  | digits => (nat? digits).map fun n => (n : Int)

def startsName (c : Char) : Bool := c.isAlpha || c == '_'

def isInName (c : Char) : Bool := c.isAlphanum || c == '_'

def isName : Octets → Bool
  | [] => false
  | c :: rest => startsName c && rest.all isInName

def lines (octets : Octets) : List Octets :=
  let parts := pieces (· == '\n') octets
  if parts.getLast? == some [] then parts.dropLast else parts

def wholeLines (octets : Octets) : List Octets :=
  let parts := pieces (· == '\n') octets
  parts.dropLast.map (· ++ ['\n']) ++ (parts.getLast?.filter (!·.isEmpty)).toList

def ofLines (lines : List Octets) : Octets := lines.flatMap (· ++ ['\n'])

def less : Octets → Octets → Bool
  | _, [] => false
  | [], _ :: _ => true
  | a :: first, b :: second => a < b || (a == b && less first second)

def isBlank (c : Char) : Bool := c == ' ' || c == '\t' || c == '\n'

def words (octets : Octets) : List Octets :=
  (pieces isBlank octets).filter (!·.isEmpty)

end Octets

end LocaleFamilies.Shell
