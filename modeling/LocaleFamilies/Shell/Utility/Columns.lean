import LocaleFamilies.Shell.Utility.Basic
import LocaleFamilies.Shell.Pattern

/-! The programs for parts of lines and for single characters. -/
namespace LocaleFamilies.Shell

abbrev Span := Nat × Option Nat

def readSpans (inFields : Bool) (text : Octets) : Except Octets (List Span) :=
  (pieces (· == ',') text).mapM fun part => do
    let first := part.takeWhile (· != '-')
    let second := part.drop (first.length + 1)
    let number (digits : Octets) : Except Octets Nat :=
      match Octets.nat? digits with
      | some number => .ok number
      | none => .error ((if inFields then "invalid field value " else
          "invalid byte/character position ").toList ++ quotedName (digits.dropWhile Char.isDigit))
    let start ← if first.isEmpty && !second.isEmpty then pure 1 else number first
    let stop ← if first.length == part.length then pure (some start)
      else if second.isEmpty then pure none else some <$> number second
    if start == 0 then
      throw (if inFields then "fields are numbered from 1" else
        "byte/character positions are numbered from 1").toList
    if stop.any (· < start) then throw "invalid decreasing range".toList
    return (start, stop)

def inSpans (spans : List Span) (place : Nat) : Bool :=
  spans.any fun (start, stop) => start ≤ place && stop.all (place ≤ ·)

def cutProgram : Program := program "b:c:d:f:ns" 1 fun invocation => do
  match invocation.options.filter fun option => "bcf".toList.contains option.1 with
  | [] => invocation.refuse "you must specify a list of bytes, characters, or fields".toList 1
  | _ :: _ :: _ => invocation.refuse "only one list may be specified".toList 1
  | [(kind, list)] =>
    match (invocation.text? 'd').getD ['\t'], readSpans (kind == 'f') list with
    | _, .error message => invocation.refuse message 1
    | [mark], .ok spans =>
      let kept {α : Type} (parts : List α) : List α :=
        ((parts.zipIdx 1).filter fun (_, place) => inSpans spans place).map (·.1)
      let shown (line : Octets) : Option Octets :=
        if kind != 'f' then some (kept line)
        else
          let fields := pieces (· == mark) line
          if fields.length == 1 then (if invocation.has 's' then none else some line)
          else some ((kept fields).intersperse [mark]).flatten
      invocation.eachInput fun _ text =>
        print (Octets.ofLines ((Octets.lines text).filterMap shown))
    | _, .ok _ => invocation.refuse "the delimiter must be a single character".toList 1

namespace Exchange

def unescaped : Nat → Octets → List (Char × Bool)
  | 0, _ => []
  | _, [] => []
  | fuel + 1, '\\' :: c :: rest =>
    if '0' ≤ c && c ≤ '7' then
      let (found, rest) := octalAt 3 (c :: rest)
      (found, true) :: unescaped fuel rest
    else ((letterEscape? c).getD c, true) :: unescaped fuel rest
  | fuel + 1, c :: rest => (c, false) :: unescaped fuel rest

def members (name : Octets) : Option Octets :=
  (class? name).map fun test => ((List.range 256).map Char.ofNat).filter test

def characters : Nat → List (Char × Bool) → Except Octets Octets
  | 0, _ => .ok []
  | _, [] => .ok []
  | fuel + 1, ('[', false) :: (':', false) :: rest => do
    let name := (rest.takeWhile (· != (':', false))).map (·.1)
    match members name with
    | some found => return found ++ (← characters fuel (rest.drop (name.length + 2)))
    | none => throw ("invalid character class ".toList ++ quotedName name)
  | fuel + 1, (first, _) :: ('-', false) :: (last, _) :: rest => do
    if last < first then
      throw ("range-endpoints of '".toList ++ [first, '-', last] ++
        "' are in reverse collating sequence order".toList)
    let found := (List.range (last.toNat - first.toNat + 1)).map fun n => Char.ofNat (first.toNat + n)
    return found ++ (← characters fuel rest)
  | fuel + 1, (c, _) :: rest => return c :: (← characters fuel rest)

def read (text : Octets) : Except Octets Octets := characters text.length (unescaped text.length text)

def squeezed (set : Octets) : Octets → Octets → Octets
  | [], output => output
  | c :: rest, output =>
    if output.head? == some c && set.contains c then squeezed set rest output
    else squeezed set rest (c :: output)

/-- What stands for a character: of the places that it has in the first set the last one counts, and the
last character of the second set stands for all that are beyond its end. -/
def exchanged (domain image : Octets) (c : Char) : Char :=
  match (domain.zipIdx.reverse.find? (·.1 == c)).map (·.2) with
  | some place => image.getD place (image.getLastD c)
  | none => c

def program : Program := Shell.program "cCds" 1 fun invocation => do
  let deletes := invocation.has 'd'
  let squeezes := invocation.has 's'
  let least := if deletes == squeezes then 2 else 1
  let most := if deletes && !squeezes then 1 else 2
  let sets := invocation.operands
  if sets.length < least then
    return ← invocation.refuse (match sets.getLast? with
      | none => "missing operand".toList
      | some last => "missing operand after ".toList ++ quotedName last ++
          (if squeezes then "\nTwo strings must be given when both deleting and squeezing repeats."
            else "\nTwo strings must be given when translating.").toList) 1
  if sets.length > most then
    return ← invocation.refuse ("extra operand ".toList ++ quotedName (sets.getD most []) ++
      (if sets.length == 2 then
        "\nOnly one string may be given when deleting without squeezing repeats." else "").toList) 1
  match read (sets.headD []), read (sets.getD 1 []) with
  | .error message, _ | _, .error message =>
    invocation.complain message
    return 1
  | .ok base, .ok image =>
    let domain := if invocation.hasAny "cC" then
        ((List.range 256).map Char.ofNat).filter (!base.contains ·) else base
    if !deletes && sets.length == 2 && image.isEmpty then
      invocation.complain "when not truncating set1, string2 must be non-empty".toList
      return 1
    match ← readAll 0 with
    | .error fault =>
      invocation.blame "read error" [] fault
      return 1
    | .ok text =>
      let changed := if deletes then text.filter (!domain.contains ·)
        else if sets.length == 1 then text else text.map (exchanged domain image)
      let set := if sets.length == 1 then domain else image
      print (if squeezes then (squeezed set changed []).reverse else changed)
      return 0

end Exchange

end LocaleFamilies.Shell
