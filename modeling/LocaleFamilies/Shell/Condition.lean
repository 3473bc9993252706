import LocaleFamilies.Shell.Process

/-! Conditions on words: comparisons of texts and numbers, questions about files, and what is put
together from them. Whether a word is an operator depends on the words around it. -/
namespace LocaleFamilies.Shell.Condition

inductive Kind
  | one
  | two
  | joint
  deriving DecidableEq, Repr

def kind? (word : Octets) : Option Kind :=
  let text := String.ofList word
  let questions := "rwxefdcbpugksztnhOGLS".toList
  match word with
  | ['-', c] =>
    if questions.contains c then some .one
    else if c == 'a' || c == 'o' then some .joint
    else none
  | _ =>
    if ["=", "!=", "<", ">", "-eq", "-ne", "-ge", "-gt", "-le", "-lt"].contains text then some .two
    else if ["!", "(", ")"].contains text then some .joint
    else none

inductive Problem
  | unexpected (word : Octets)
  | missing (operator : Octets)
  | unclosed
  | illegal (number : Octets)
  deriving DecidableEq, Repr

inductive Part
  | ended
  | operand
  | operator (text : String) (kind : Kind)
  deriving DecidableEq

/-- Whether the word after an operator for one word makes the operator itself a word. -/
def isOperand : List Octets → Bool
  | [] => true
  | [_] => false
  | next :: _ => kind? next == some .two

def part : List Octets → Part
  | [] => .ended
  | word :: rest =>
    match kind? word with
    | some kind =>
      if kind == .one && isOperand rest || word == ['('] && rest.isEmpty then .operand
      else .operator (String.ofList word) kind
    | none => .operand

abbrev Judge := StateT (List Octets) (Except Problem)

def nextPart : Judge Part := do return part (← get).tail

def advance (count : Nat) : Judge Unit := modify (List.drop count)

def number (word : Octets) : Except Problem Int :=
  let blank (c : Char) : Bool := c == ' ' || (0x09 ≤ c.toNat && c.toNat ≤ 0x0d)
  let text := ((word.dropWhile blank).reverse.dropWhile blank).reverse
  match Octets.int? text with
  | some value =>
    if value.natAbs > 9223372036854775807 then .error (.illegal word) else .ok value
  | none => .error (.illegal word)

abbrev Facts := Char → Octets → Bool

def compare (operator : String) (first second : Octets) : Except Problem Bool := do
  match operator with
  | "=" => return first == second
  | "!=" => return first != second
  | "<" => return Octets.less first second
  | ">" => return Octets.less second first
  | "-eq" => return (← number first) == (← number second)
  | "-ne" => return (← number first) != (← number second)
  | "-ge" => return (← number first) ≥ (← number second)
  | "-gt" => return (← number first) > (← number second)
  | "-le" => return (← number first) ≤ (← number second)
  | _ => return (← number first) < (← number second)

mutual
def either (facts : Facts) : Nat → Part → Judge Bool
  | 0, _ => return false
  | fuel + 1, first => do
    let holds ← both facts fuel first
    match ← nextPart with
    | .operator "-o" _ =>
      advance 2
      let other ← either facts fuel (part (← get))
      return holds || other
    | _ => return holds

def both (facts : Facts) : Nat → Part → Judge Bool
  | 0, _ => return false
  | fuel + 1, first => do
    let holds ← negated facts fuel first
    match ← nextPart with
    | .operator "-a" _ =>
      advance 2
      let other ← both facts fuel (part (← get))
      return holds && other
    | _ => return holds

def negated (facts : Facts) : Nat → Part → Judge Bool
  | 0, _ => return false
  | fuel + 1, .operator "!" _ => do
    let next ← nextPart
    if next != .ended then advance 1
    return !(← negated facts fuel next)
  | fuel + 1, first => single facts fuel first

def single (facts : Facts) : Nat → Part → Judge Bool
  | 0, _ => return false
  | _, .ended => return false
  | fuel + 1, .operator "(" _ => do
    advance 1
    let next := part (← get)
    if next matches .operator ")" _ then return false
    let holds ← either facts fuel next
    advance 1
    match part (← get) with
    | .operator ")" _ => return holds
    | _ => throw .unclosed
  | _, .operator text .one => do
    advance 1
    match (← get).head? with
    | none => throw (.missing text.toList)
    | some word =>
      match text.toList with
      | ['-', 'z'] => return word.isEmpty
      | ['-', 'n'] => return !word.isEmpty
      | ['-', c] => return facts c word
      | _ => return false
  | _, _ => do
    match ← nextPart with
    | .operator text .two =>
      let first := (← get).headD []
      advance 2
      match (← get).head? with
      | none => throw (.missing text.toList)
      | some second => compare text first second
    | _ => return !((← get).headD []).isEmpty
end

def judge (facts : Facts) (first : Part) (words : List Octets) : Except Problem Bool := do
  let (holds, left) ← (either facts (4 * words.length + 8) first).run words
  match left with
  | word :: _ :: _ => throw (.unexpected word)
  | _ => return holds

/-- Whether some words hold. Three words with an operator in the middle are a comparison, and up to
four words may be negated or stand in parentheses. -/
def holds (facts : Facts) : List Octets → Except Problem Bool
  | [] => .ok false
  | words =>
    match words with
    | first :: rest =>
      let isComparison := words.length == 3 && (rest.head?.bind kind?) == some .two
      if isComparison then judge facts .operand words
      else if words.length == 3 || words.length == 4 then
        if first == ['('] && rest.getLast? == some [')'] then
          judge facts (part rest.dropLast) rest.dropLast
        else if first == ['!'] then (holds facts rest).map (!·)
        else judge facts (part words) words
      else judge facts (part words) words
    | [] => .ok false

def fileHolds (process : Process) (question : Char) (file : Octets) : Bool :=
  let follow := question != 'h' && question != 'L'
  match process.tree.entryAt process.directory follow file.path with
  | .error _ => false
  | .ok (_, entry) =>
    match question with
    | 'e' | 'r' | 'w' | 'O' | 'G' => true
    | 'd' => entry == .directory
    | 'h' | 'L' => (entry matches .link _)
    | 'c' => entry == .sink
    | 'f' =>
      match entry with
      | .file _ _ | .program _ => true
      | _ => false
    | 's' =>
      match entry with
      | .file content _ => !content.isEmpty
      | .sink => false
      | _ => true
    | 'x' => entry == .directory || canRun entry
    | 'u' | 'g' | 'k' => false
    | _ => false

def facts (process : Process) : Facts := fileHolds process

def Problem.message : Problem → Octets
  | unexpected word => if word.isEmpty then "unexpected operator".toList
    else word ++ ": unexpected operator".toList
  | missing operator => operator ++ ": argument expected".toList
  | unclosed => "closing paren expected".toList
  | illegal number => "Illegal number: ".toList ++ number

end LocaleFamilies.Shell.Condition
