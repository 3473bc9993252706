import LocaleFamilies.Shell.Octets

/-! The modes of files: twelve bits that say who may do what with a file. The last nine of them are
three rows of three, for the owner, the group and the others. A text gives a mode as a number in octal
digits, or as clauses that change one. -/
namespace LocaleFamilies.Shell

def octal? (text : Octets) : Option Nat :=
  if !text.isEmpty && text.all fun c => c.isDigit && c.toNat < 56 then
    some (text.foldl (fun n c => n * 8 + (c.toNat - 48)) 0)
  else none

/-- The mode that a text asks for, where the mode before is given. A clause that names no people is
about all bits that are not in the mask. -/
def modeOf (mask : Nat) (text : Octets) (before : Nat) : Option Nat :=
  if text.isEmpty then none
  else if text.all Char.isDigit then
    (octal? text).bind fun mode => if mode < 4096 then some mode else none
  else (pieces (· == ',') text).foldlM (fun mode clause => clauseMode (clause.length + 1) clause mode) before
where
  people (letters : Octets) : Nat :=
    letters.foldl (fun bits c => bits ||| (match c with
      | 'u' => 0o700
      | 'g' => 0o070
      | 'o' => 0o007
      | _ => 0o777)) 0
  rights (mode : Nat) : Octets → Option Nat
    | [] => some 0
    | c :: rest => do
      let bits ← (match c with
        | 'r' => some 0o444
        | 'w' => some 0o222
        | 'x' => some 0o111
        | 'X' => some (if mode &&& 0o111 != 0 then 0o111 else 0)
        | _ => none : Option Nat)
      return bits ||| (← rights mode rest)
  clauseMode : Nat → Octets → Nat → Option Nat
    | 0, _, _ => none
    | fuel + 1, clause, mode => do
      let letters := clause.takeWhile ("ugoa".toList.contains ·)
      actions fuel letters (clause.drop letters.length) mode true
  actions : Nat → Octets → Octets → Nat → Bool → Option Nat
    | 0, _, _, _, _ => none
    | _, _, [], mode, first => if first then none else some mode
    | fuel + 1, letters, sign :: rest, mode, _ => do
      if !("+-=".toList.contains sign) then none
      else
        let what := rest.takeWhile (!"+-=".toList.contains ·)
        let bits ← rights mode what
        let concerned := if letters.isEmpty then 0o777 ^^^ mask else people letters
        let chosen := bits &&& concerned
        let changed := match sign with
          | '+' => mode ||| chosen
          | '-' => mode ^^^ (mode &&& chosen)
          | _ => (mode ^^^ (mode &&& concerned)) ||| chosen
        actions fuel letters (rest.drop what.length) changed false

end LocaleFamilies.Shell
