import LocaleFamilies.Shell.Octets

/-! Expressions over whole numbers of 64 bits. An expression is worked out while it is read, so that
of two mistakes in it the one that is come upon first is told. What stands behind a condition that
does not hold is read and has no effect. -/
namespace LocaleFamilies.Shell.Arithmetic

inductive Operation
  | times | quotient | modulo | plus | minus | up | down
  | less | atMost | more | atLeast | equal | unequal | bitAnd | bitXor | bitOr
  deriving DecidableEq, Repr

def Operation.rank : Operation → Nat
  | times | quotient | modulo => 0
  | plus | minus => 1
  | up | down => 2
  | less | atMost | more | atLeast => 3
  | equal | unequal => 4
  | bitAnd => 5
  | bitXor => 6
  | bitOr => 7

inductive Token
  | number (value : Int64)
  | named (name : Octets)
  | operation (operation : Operation)
  /-- The assignment of a value, or of what an operation makes of the old one and of it. -/
  | assign (operation : Option Operation)
  | sign (text : String)
  | bad
  deriving DecidableEq, Repr

def greatest : Nat := 9223372036854775807

def digitValue (c : Char) : Nat :=
  if c.isDigit then c.toNat - 48
  else if 'a' ≤ c && c ≤ 'z' then c.toNat - 87
  else if 'A' ≤ c && c ≤ 'Z' then c.toNat - 55
  else 99

def digits (base : Nat) (text : Octets) : Nat × Nat :=
  let found := text.takeWhile fun c => digitValue c < base
  (found.foldl (fun n c => n * base + digitValue c) 0, found.length)

/-- The number at the front of a text: a zero announces the base eight, and with an x the base
sixteen. What follows it is returned as well. -/
def number (text : Octets) : Nat × Octets :=
  let octal := match text with
    | '0' :: _ => true
    | _ => false
  let plain := digits (if octal then 8 else 10) text
  match text with
  | '0' :: x :: rest =>
    let (value, count) := digits 16 rest
    if (x == 'x' || x == 'X') && count > 0 then (value, rest.drop count)
    else (plain.1, text.drop plain.2)
  | _ => (plain.1, text.drop plain.2)

def signs : List (String × Token) :=
  [("<<=", .assign (some .up)), (">>=", .assign (some .down)),
    ("<<", .operation .up), (">>", .operation .down), ("<=", .operation .atMost),
    (">=", .operation .atLeast), ("==", .operation .equal), ("!=", .operation .unequal),
    ("&&", .sign "&&"), ("||", .sign "||"), ("*=", .assign (some .times)),
    ("/=", .assign (some .quotient)), ("%=", .assign (some .modulo)), ("+=", .assign (some .plus)),
    ("-=", .assign (some .minus)), ("&=", .assign (some .bitAnd)), ("^=", .assign (some .bitXor)),
    ("|=", .assign (some .bitOr)), ("<", .operation .less), (">", .operation .more),
    ("=", .assign none), ("*", .operation .times), ("/", .operation .quotient),
    ("%", .operation .modulo), ("+", .operation .plus), ("-", .operation .minus),
    ("&", .operation .bitAnd), ("^", .operation .bitXor), ("|", .operation .bitOr),
    ("!", .sign "!"), ("~", .sign "~"), ("(", .sign "("), (")", .sign ")"), ("?", .sign "?"),
    (":", .sign ":")]

def tokens : Nat → Octets → List Token
  | 0, _ => []
  | _, [] => []
  | fuel + 1, c :: rest =>
    if Octets.isBlank c then tokens fuel rest
    else if c.isDigit then
      let (value, rest) := number (c :: rest)
      .number (Int64.ofNat (min value greatest)) :: tokens fuel rest
    else if Octets.startsName c then
      let name := (c :: rest).takeWhile Octets.isInName
      .named name :: tokens fuel ((c :: rest).drop name.length)
    else
      match signs.find? fun sign => sign.1.toList.isPrefixOf (c :: rest) with
      | some (sign, token) => token :: tokens fuel ((c :: rest).drop sign.length)
      | none => [.bad]

inductive Problem
  | expecting (what : String)
  | division
  /-- The value of a variable that is no number. -/
  | illegal (value : Octets)
  deriving DecidableEq, Repr

/-- An expression that is being worked out: what is left of it, the values of the variables, and those
that have been assigned, the last one first. -/
structure Reckoning where
  rest : List Token
  value : Octets → Octets
  assigned : List (Octets × Int64)

abbrev Reckon := StateT Reckoning (Except Problem)

def ofValue (value : Octets) : Except Problem Int64 := do
  let blank (c : Char) : Bool := c == ' ' || (0x09 ≤ c.toNat && c.toNat ≤ 0x0d)
  let text := value.dropWhile blank
  let (negative, text) := match text with
    | '-' :: rest => (true, rest)
    | '+' :: rest => (false, rest)
    | rest => (false, rest)
  let (size, rest) := number text
  let isNumber := (text.head?.map Char.isDigit).getD false
  let rest := if isNumber then rest else value
  if !(rest.all blank) || size > greatest + (if negative then 1 else 0) then
    throw (.illegal value)
  let result := Int64.ofNat size
  return if negative then -result else result

def ofBool (value : Bool) : Int64 := if value then 1 else 0

def Operation.apply (operation : Operation) (a b : Int64) : Except Problem Int64 :=
  match operation with
  | times => .ok (a * b)
  | quotient => if b == 0 then .error .division else .ok (a / b)
  | modulo => if b == 0 then .error .division else .ok (a % b)
  | plus => .ok (a + b)
  | minus => .ok (a - b)
  | up => .ok (a <<< b)
  | down => .ok (a >>> b)
  | less => .ok (ofBool (a < b))
  | atMost => .ok (ofBool (a ≤ b))
  | more => .ok (ofBool (b < a))
  | atLeast => .ok (ofBool (b ≤ a))
  | equal => .ok (ofBool (a == b))
  | unequal => .ok (ofBool (a != b))
  | bitAnd => .ok (a &&& b)
  | bitXor => .ok (a ^^^ b)
  | bitOr => .ok (a ||| b)

def next : Reckon (Option Token) := do
  let state ← get
  set { state with rest := state.rest.tail }
  return state.rest.head?

def accept (text : String) : Reckon Bool := do
  if (← get).rest.head? == some (.sign text) then
    let _ ← next
    return true
  else return false

def lookUp (name : Octets) : Reckon Int64 := do
  let state ← get
  match state.assigned.find? (·.1 == name) with
  | some (_, value) => return value
  | none => ofValue (state.value name)

def apply (idle : Bool) (operation : Operation) (a b : Int64) : Reckon Int64 :=
  if idle then return b else operation.apply a b

mutual
def operand : Nat → Bool → Reckon Int64
  | 0, _ => throw (.expecting "primary")
  | fuel + 1, idle => do
    match ← next with
    | some (.sign "(") =>
      let value ← assignment fuel idle
      if ← accept ")" then return value else throw (.expecting "')'")
    | some (.number value) => return value
    | some (.named name) => if idle then return 0 else lookUp name
    | some (.operation .plus) => operand fuel idle
    | some (.operation .minus) => return -(← operand fuel idle)
    | some (.sign "!") => return ofBool ((← operand fuel idle) == 0)
    | some (.sign "~") => return ~~~(← operand fuel idle)
    | _ => throw (.expecting "primary")

def operations : Nat → Bool → Nat → Int64 → Reckon Int64
  | 0, _, _, value => return value
  | fuel + 1, idle, rank, value => do
    match (← get).rest with
    | .operation operation :: _ =>
      if operation.rank ≥ rank then return value
      let _ ← next
      let second ← operand fuel idle
      let second ← operations fuel idle operation.rank second
      operations fuel idle rank (← apply idle operation value second)
    | _ => return value

def conjunction : Nat → Bool → Reckon Int64
  | 0, _ => throw (.expecting "primary")
  | fuel + 1, idle => do
    let first ← operations fuel idle 8 (← operand fuel idle)
    if ← accept "&&" then
      let second ← conjunction fuel (idle || first == 0)
      return ofBool (first != 0 && second != 0)
    else return first

def disjunction : Nat → Bool → Reckon Int64
  | 0, _ => throw (.expecting "primary")
  | fuel + 1, idle => do
    let first ← conjunction fuel idle
    if ← accept "||" then
      let second ← disjunction fuel (idle || first != 0)
      return ofBool (first != 0 || second != 0)
    else return first

def choice : Nat → Bool → Reckon Int64
  | 0, _ => throw (.expecting "primary")
  | fuel + 1, idle => do
    let condition ← disjunction fuel idle
    if ← accept "?" then
      let yes ← assignment fuel (idle || condition == 0)
      if !(← accept ":") then throw (.expecting "':'")
      let no ← choice fuel (idle || condition != 0)
      return if condition != 0 then yes else no
    else return condition

def assignment : Nat → Bool → Reckon Int64
  | 0, _ => throw (.expecting "primary")
  | fuel + 1, idle => do
    match (← get).rest with
    | .named name :: .assign operation :: rest =>
      modify fun state => { state with rest := rest }
      let value ← assignment fuel idle
      if idle then return value
      let value ← match operation with
        | none => pure value
        | some operation => do (operation.apply (← lookUp name) value : Except Problem Int64)
      modify fun state => { state with assigned := (name, value) :: state.assigned }
      return value
    | _ => choice fuel idle
end

def evaluate (value : Octets → Octets) (expression : Octets) :
    Except Problem (Int64 × List (Octets × Int64)) := do
  let tokens := tokens (expression.length + 1) expression
  let (result, state) ← (assignment (8 * tokens.length + 8) false).run ⟨tokens, value, []⟩
  if state.rest.isEmpty then return (result, state.assigned.reverse)
  else throw (.expecting "EOF")

def Problem.message (expression : Octets) : Problem → Octets
  | expecting what =>
    "arithmetic expression: expecting ".toList ++ what.toList ++ ": \"".toList ++ expression ++ ['"']
  | division => "arithmetic expression: division by zero: \"".toList ++ expression ++ ['"']
  | illegal value => "Illegal number: ".toList ++ value

end LocaleFamilies.Shell.Arithmetic
