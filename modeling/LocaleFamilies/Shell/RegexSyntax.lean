import LocaleFamilies.Shell.Regex

/-! The two ways to write regular expressions. In the basic one the signs for groups and repetitions
have a backslash before them, in the extended one they stand alone. -/
namespace LocaleFamilies.Shell.Regex

structure Style where
  extended : Bool
  folded : Bool
  /-- Whether a backslash means something in brackets. -/
  escapes : Bool
  /-- Whether signs in places where they mean nothing stand for themselves. -/
  loose : Bool

inductive Problem
  | brackets
  | bracketClass
  | opening
  | closing
  | braces
  | bracesContent
  | repetition
  | reference
  | backslash
  | range
  | size
  deriving DecidableEq, Repr

def Problem.message : Problem → String
  | brackets => "Unmatched [, [^, [:, [., or [="
  | bracketClass => "Invalid character class name"
  | opening => "Unmatched ( or \\("
  | closing => "Unmatched ) or \\)"
  | braces => "Unmatched \\\x7b"
  | bracesContent => "Invalid content of \\\x7b\\\x7d"
  | repetition => "Invalid preceding regular expression"
  | reference => "Invalid back reference"
  | backslash => "Trailing backslash"
  | range => "Invalid range end"
  | size => "Regular expression too big"

structure Reader where
  rest : Octets
  groups : Nat
  depth : Nat

abbrev Read := StateT Reader (Except Problem)

def isWord (c : Char) : Bool := c.isAlphanum || c == '_'

def exactly (style : Style) (c : Char) : Regex :=
  if style.folded && c.isAlpha then .one fun other => other.toLower == c.toLower
  else .one (· == c)

def anyOf (style : Style) (negated : Bool) (test : Char → Bool) : Regex :=
  let test (c : Char) : Bool := if style.folded then test c.toLower || test c.toUpper else test c
  .one fun c => test c != negated

def atFront : Regex := .place fun before _ => before.isNone

def atBack : Regex := .place fun _ after => after.isNone

def special? (c : Char) : Option Regex :=
  let isIn (c : Option Char) : Bool := (c.map isWord).getD false
  let isSpace (c : Char) : Bool := c == ' ' || (0x09 ≤ c.toNat && c.toNat ≤ 0x0d)
  match c with
  | 'w' => some (.one isWord)
  | 'W' => some (.one fun c => !isWord c)
  | 's' => some (.one isSpace)
  | 'S' => some (.one fun c => !isSpace c)
  | '<' => some (.place fun before after => !isIn before && isIn after)
  | '>' => some (.place fun before after => isIn before && !isIn after)
  | 'b' => some (.place fun before after => isIn before != isIn after)
  | _ => none

def bracketName? (text : Octets) : Option (Octets × Octets) :=
  let name := text.takeWhile (· != ':')
  match text.drop name.length with
  | _ :: ']' :: rest => some (name, rest)
  | _ => none

def bracketChar (style : Style) (text : Octets) : Except Problem (Char × Octets) :=
  match text with
  | [] => .error .brackets
  | '\\' :: c :: rest =>
    if !style.escapes then .ok ('\\', c :: rest)
    else if c == 'n' then .ok ('\n', rest)
    else if c == 't' then .ok ('\t', rest)
    else .ok (c, rest)
  | c :: rest => .ok (c, rest)

def bracketTests (style : Style) : Nat → Octets → Bool → List (Char → Bool) →
    Except Problem (List (Char → Bool) × Octets)
  | 0, _, _, _ => .error .brackets
  | fuel + 1, text, first, found =>
    match text with
    | [] => .error .brackets
    | ']' :: rest =>
      if first then afterChar fuel ']' rest found
      else .ok (found, rest)
    | '[' :: ':' :: rest =>
      match bracketName? rest with
      | some (name, rest) =>
        match class? name with
        | some test => bracketTests style fuel rest false (test :: found)
        | none => .error .bracketClass
      | none => .error .brackets
    | text => do
      let (c, rest) ← bracketChar style text
      afterChar fuel c rest found
where
  afterChar (fuel : Nat) (c : Char) (rest : Octets) (found : List (Char → Bool)) :
      Except Problem (List (Char → Bool) × Octets) :=
    match rest with
    | '-' :: ']' :: _ => bracketTests style fuel rest false ((· == c) :: found)
    | '-' :: rest => do
      let (last, rest) ← bracketChar style rest
      if last < c then throw .range
      bracketTests style fuel rest false ((fun other => c ≤ other && other ≤ last) :: found)
    | rest => bracketTests style fuel rest false ((· == c) :: found)

def brackets (style : Style) : Read Regex := do
  let reader ← get
  let (negated, text) := match reader.rest with
    | '^' :: rest => (true, rest)
    | rest => (false, rest)
  let (tests, rest) ← bracketTests style (text.length + 2) text true []
  set { reader with rest := rest }
  return anyOf style negated fun c => tests.any (· c)

def counts? (style : Style) (text : Octets) : Option (Nat × Option Nat × Octets) :=
  let least := text.takeWhile Char.isDigit
  let ended (rest : Octets) : Option Octets :=
    match rest, style.extended with
    | '}' :: rest, true => some rest
    | '\\' :: '}' :: rest, false => some rest
    | _, _ => none
  let value (digits : Octets) : Nat := (Octets.nat? digits).getD 0
  match text.drop least.length with
  | ',' :: rest =>
    let most := rest.takeWhile Char.isDigit
    match ended (rest.drop most.length) with
    | some after =>
      if least.isEmpty && most.isEmpty then none
      else some (value least, if most.isEmpty then none else some (value most), after)
    | none => none
  | rest =>
    if least.isEmpty then none
    else (ended rest).map fun after => (value least, some (value least), after)

def repetition? (style : Style) (text : Octets) : Except Problem (Option (Nat × Option Nat × Octets)) :=
  let braced (rest : Octets) : Except Problem (Option (Nat × Option Nat × Octets)) :=
    match counts? style rest with
    | some (least, most, rest) =>
      if most.any (· < least) then .error .bracesContent
      else if least > 32767 || most.any (· > 32767) then .error .size
      else .ok (some (least, most, rest))
    | none =>
      if style.extended && style.loose then .ok none
      else if (rest.dropWhile fun c => c.isDigit || c == ',').isEmpty then .error .braces
      else .error .bracesContent
  match text, style.extended with
  | '*' :: rest, _ => .ok (some (0, none, rest))
  | '+' :: rest, true => .ok (some (1, none, rest))
  | '?' :: rest, true => .ok (some (0, some 1, rest))
  | '{' :: rest, true => braced rest
  | '\\' :: '+' :: rest, false => .ok (some (1, none, rest))
  | '\\' :: '?' :: rest, false => .ok (some (0, some 1, rest))
  | '\\' :: '{' :: rest, false => braced rest
  | _, _ => .ok none

def repeated (style : Style) : Nat → Regex → Read Regex
  | 0, inner => return inner
  | fuel + 1, inner => do
    let reader ← get
    match ← repetition? style reader.rest with
    | some (least, most, rest) =>
      set { reader with rest := rest }
      repeated style fuel (inner.times least most)
    | none => return inner

def atBar (style : Style) : Octets → Bool
  | '|' :: _ => style.extended
  | '\\' :: '|' :: _ => !style.extended
  | _ => false

def atClosing (style : Style) : Octets → Bool
  | ')' :: _ => style.extended
  | '\\' :: ')' :: _ => !style.extended
  | _ => false

def skip (count : Nat) : Read Unit := modify fun reader =>
  { reader with rest := reader.rest.drop count }

mutual
def alternatives (style : Style) : Nat → Read Regex
  | 0 => return .empty
  | fuel + 1 => do
    let first ← branch style fuel true .empty
    if atBar style (← get).rest then
      skip (if style.extended then 1 else 2)
      return .either first (← alternatives style fuel)
    else return first

def branch (style : Style) : Nat → Bool → Regex → Read Regex
  | 0, _, found => return found
  | fuel + 1, front, found => do
    let reader ← get
    if reader.rest.isEmpty || atBar style reader.rest then return found
    if atClosing style reader.rest && (reader.depth > 0 || !style.extended) then
      if reader.depth == 0 then throw .closing
      return found
    let inner ← part style fuel front
    let isPlace := inner matches .place _
    let inner ← if isPlace then pure inner else repeated style fuel inner
    branch style fuel isPlace (if found matches .empty then inner else .both found inner)

def part (style : Style) : Nat → Bool → Read Regex
  | 0, _ => return .empty
  | fuel + 1, front => do
    let reader ← get
    let group (count : Nat) : Read Regex := do
      let number := reader.groups + 1
      set { reader with rest := reader.rest.drop count, groups := number, depth := reader.depth + 1 }
      let inner ← alternatives style fuel
      if !atClosing style (← get).rest then throw .opening
      skip count
      modify fun inside => { inside with depth := reader.depth }
      return .group number inner
    match reader.rest with
    | [] => return .empty
    | '\\' :: [] => throw .backslash
    | '\\' :: c :: _ =>
      if c == '(' && !style.extended then group 2
      else
        skip 2
        if c.isDigit && c != '0' then
          let number := c.toNat - 48
          if number > reader.groups then throw .reference
          return .again number
        else if c == '{' && !style.extended && !style.loose then throw .repetition
        else if c == 'n' && style.escapes then return exactly style '\n'
        else if c == 't' && style.escapes then return exactly style '\t'
        else return (special? c).getD (exactly style c)
    | '(' :: _ => if style.extended then group 1 else do
        skip 1
        return exactly style '('
    | c :: rest =>
      skip 1
      match c with
      | '.' => return .one fun _ => true
      | '[' => brackets style
      | '*' | '+' | '?' | '{' =>
        if !(style.extended && front) then return exactly style c
        else if !style.loose then throw .repetition
        else if c == '{' then return exactly style c
        else part style fuel true
      | '^' => return if style.extended || front then atFront else exactly style '^'
      | '$' =>
        let isLast := rest.isEmpty || atBar style rest || atClosing style rest
        return if style.extended || isLast then atBack else exactly style '$'
      | ')' => if style.extended && !style.loose then throw .closing else return exactly style ')'
      | c => return exactly style c
end

def read (style : Style) (text : Octets) : Except Problem Regex := do
  let (expression, reader) ← (alternatives style (4 * text.length + 8)).run ⟨text, 0, 0⟩
  if reader.rest.isEmpty then return expression else throw .closing

end LocaleFamilies.Shell.Regex
