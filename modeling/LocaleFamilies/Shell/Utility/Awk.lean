import LocaleFamilies.Shell.RegexSyntax
import LocaleFamilies.Shell.Utility.Basic

/-! The record processor: rules whose actions are carried out for the lines of the input that their
patterns select. Actions put out values or give them to names; numbers are whole. -/
namespace LocaleFamilies.Shell.Awk

/-- A value. One that comes from the input counts as a number if it looks like one. -/
inductive Value
  | number (value : Int)
  | text (value : Octets)
  | input (value : Octets)

inductive Expr
  | value (value : Value)
  | found (pattern : Regex)
  | name (name : Octets)
  | field (index : Expr)
  | assign (name : Octets) (value : Expr)
  | negate (inner : Expr)
  | not (inner : Expr)
  | join (first second : Expr)
  | compute (sign : String) (first second : Expr)

inductive Action
  | evaluate (expression : Expr)
  | print (parts : List Expr)

inductive Selection
  | first
  | last
  | every
  | when (condition : Expr)

structure Rule where
  selection : Selection
  actions : List Action

inductive Word
  | number (value : Nat)
  | text (value : Octets)
  | pattern (value : Octets)
  | name (name : Octets)
  | sign (sign : String)
  deriving DecidableEq

def signs : List String := ["&&", "||", "==", "!=", "<=", ">=", "!~", "\x7b", "\x7d", "(", ")", ";", ",", "+",
  "-", "*", "/", "%", "<", ">", "~", "!", "$", "="]

def inside (mark : Char) (isPattern : Bool) : Octets → Option (Octets × Octets)
  | [] => none
  | '\\' :: c :: rest => do
    let (text, after) ← inside mark isPattern rest
    let part : Octets := if c == mark then [c] else if isPattern then ['\\', c]
      else (letterEscape? c).toList
    return (part ++ text, after)
  | c :: rest =>
    if c == mark then some ([], rest)
    else do
      let (text, after) ← inside mark isPattern rest
      return (c :: text, after)

def Word.endsOperand : Word → Bool
  | .sign mark => mark == ")"
  | _ => true

/-- The words of a script in reverse order, after those found so far; line ends count as semicolons. -/
def wordsOf : Nat → Octets → List Word → Option (List Word)
  | 0, _, found => some found
  | _, [], found => some found
  | fuel + 1, c :: rest, found =>
    if c == '\n' then wordsOf fuel rest (.sign ";" :: found)
    else if Octets.isBlank c then wordsOf fuel rest found
    else if c == '"' then do
      let (text, rest) ← inside '"' false rest
      wordsOf fuel rest (.text text :: found)
    else if c == '/' && !(found.head?.map Word.endsOperand).getD false then do
      let (text, rest) ← inside '/' true rest
      wordsOf fuel rest (.pattern text :: found)
    else if Octets.startsName c then
      let name := (c :: rest).takeWhile Octets.isInName
      wordsOf fuel ((c :: rest).drop name.length) (.name name :: found)
    else if c.isDigit then
      let digits := (c :: rest).takeWhile Char.isDigit
      wordsOf fuel ((c :: rest).drop digits.length) (.number ((Octets.nat? digits).getD 0) :: found)
    else do
      let sign ← signs.find? fun sign => sign.toList.isPrefixOf (c :: rest)
      wordsOf fuel ((c :: rest).drop sign.length) (.sign sign :: found)

abbrev Reading := StateT (List Word) Option

def skip : Reading Unit := modify (List.drop 1)

def accept (sign : String) : Reading Bool := do
  if (← get).head? == some (.sign sign) then
    skip
    return true
  else return false

def expect (sign : String) : Reading Unit := do
  if !(← accept sign) then failure

def level? : Word → Option Nat
  | .sign "||" => some 0
  | .sign "&&" => some 1
  | .sign "~" | .sign "!~" => some 2
  | .sign "<" | .sign "<=" | .sign "==" | .sign "!=" | .sign ">" | .sign ">=" => some 3
  | .sign "+" | .sign "-" => some 5
  | .sign "*" | .sign "/" | .sign "%" => some 6
  | _ => none

def beginsOperand : Word → Bool
  | .sign mark => ["$", "(", "!"].contains mark
  | _ => true

def patternOf (text : Octets) : Option Regex := (Regex.read ⟨true, false, true, true⟩ text).toOption

mutual
def expression (least : Nat) : Nat → Reading Expr
  | 0 => failure
  | fuel + 1 => do extend least (← operand fuel) fuel

def extend (least : Nat) (left : Expr) : Nat → Reading Expr
  | 0 => failure
  | fuel + 1 => do
    match ← get with
    | [] => return left
    | word :: _ =>
      match level? word, word with
      | some level, .sign sign =>
        if level < least then return left
        skip
        extend least (.compute sign left (← expression (level + 1) fuel)) fuel
      | _, _ =>
        if beginsOperand word && least ≤ 4 then
          extend least (.join left (← expression 5 fuel)) fuel
        else return left

def operand : Nat → Reading Expr
  | 0 => failure
  | fuel + 1 => do
    let word ← match ← get with
      | [] => failure
      | word :: _ => pure word
    skip
    match word with
    | .number value => return .value (.number value)
    | .text value => return .value (.text value)
    | .pattern text => return .found (← patternOf text)
    | .name name =>
      if ← accept "=" then return .assign name (← expression 0 fuel)
      else return .name name
    | .sign "$" => return .field (← operand fuel)
    | .sign "-" => return .negate (← operand fuel)
    | .sign "!" => return .not (← operand fuel)
    | .sign "(" =>
      let inner ← expression 0 fuel
      expect ")"
      return inner
    | .sign _ => failure
end

def expressions (bound : Nat) : Nat → Reading (List Expr)
  | 0 => failure
  | fuel + 1 => do
    let first ← expression 0 bound
    if ← accept "," then return first :: (← expressions bound fuel)
    else return [first]

def actions (bound : Nat) : Nat → Reading (List Action)
  | 0 => failure
  | fuel + 1 => do
    if ← accept "\x7d" then return []
    if ← accept ";" then return ← actions bound fuel
    let action ← (do
      if (← get).head? == some (.name "print".toList) then
        skip
        let isBare := (← get).head?.all fun word => word == .sign ";" || word == .sign "\x7d"
        return .print (← if isBare then pure [] else expressions bound bound)
      else return .evaluate (← expression 0 bound) : Reading Action)
    return action :: (← actions bound fuel)

/-- The rules of a script; without actions the record is put out. -/
def rules (bound : Nat) : Nat → Reading (List Rule)
  | 0 => return []
  | fuel + 1 => do
    if ← accept ";" then return ← rules bound fuel
    if (← get).isEmpty then return []
    let selection ← (do
      match ← get with
      | .sign "\x7b" :: _ => return .every
      | .name name :: _ =>
        if name != "BEGIN".toList && name != "END".toList then return .when (← expression 0 bound)
        skip
        return if name == "BEGIN".toList then .first else .last
      | _ => return .when (← expression 0 bound) : Reading Selection)
    let actions ← if ← accept "\x7b" then actions bound bound else pure [.print []]
    return ⟨selection, actions⟩ :: (← rules bound fuel)

def read? (text : Octets) : Option (List Rule) := do
  let words := (← wordsOf (text.length + 1) text []).reverse
  let bound := 8 * words.length + 8
  return (← (rules bound bound).run words).1

structure Session where
  names : List (Octets × Value)
  record : Octets
  output : List Octets

abbrev Work := StateM Session

def Value.number? : Value → Option Int
  | .number value => some value
  | .text _ => none
  | .input value => Octets.int? value

def Value.toText : Value → Octets
  | .number value => Octets.ofInt value
  | .text value | .input value => value

def Value.toInt : Value → Int
  | .number value => value
  | .text value | .input value =>
    match value with
    | '-' :: digits => -((Octets.nat? (digits.takeWhile Char.isDigit)).getD 0 : Nat)
    | digits => ((Octets.nat? (digits.takeWhile Char.isDigit)).getD 0 : Nat)

def Value.holds (value : Value) : Bool :=
  match value.number? with
  | some count => count != 0
  | none => !value.toText.isEmpty

def Value.ofBool (holds : Bool) : Value := .number (if holds then 1 else 0)

def Session.value (session : Session) (name : String) : Value :=
  ((session.names.find? (·.1 == name.toList)).map (·.2)).getD (.input [])

def setName (name : Octets) (value : Value) : Work Unit := modify fun session =>
  { session with names := (name, value) :: session.names.filter (·.1 != name) }

/-- A text in fields: by blanks, by a character, or by what an expression is found in. -/
def fieldsOf (separator text : Octets) : List Octets :=
  match separator with
  | [' '] => Octets.words text
  | [c] => if text.isEmpty then [] else pieces (· == c) text
  | separator =>
    let places := (((patternOf separator).getD .empty).searchAll text).filter fun found =>
      found.start < found.stop
    let starts := 0 :: places.map (·.stop)
    let stops := places.map (·.start) ++ [text.length]
    (starts.zip stops).map fun (start, stop) => (text.take stop).drop start

def Session.fields (session : Session) : List Octets :=
  fieldsOf (session.value "FS").toText session.record

def compared (sign : String) (first second : Value) : Bool :=
  let order := match first.number?, second.number? with
    | some first, some second => compare first second
    | _, _ =>
      if Octets.less first.toText second.toText then .lt
      else if Octets.less second.toText first.toText then .gt else .eq
  match sign with
  | "<" => order == .lt
  | "<=" => order != .gt
  | "==" => order == .eq
  | "!=" => order != .eq
  | ">" => order == .gt
  | _ => order != .lt

def computed (sign : String) (first second : Value) : Value :=
  let patternIn (value : Value) : Regex := (patternOf value.toText).getD .empty
  match sign with
  | "+" => .number (first.toInt + second.toInt)
  | "-" => .number (first.toInt - second.toInt)
  | "*" => .number (first.toInt * second.toInt)
  | "/" => .number (first.toInt.tdiv second.toInt)
  | "%" => .number (first.toInt.tmod second.toInt)
  | "&&" => .ofBool (first.holds && second.holds)
  | "||" => .ofBool (first.holds || second.holds)
  | "~" => .ofBool ((patternIn second).isFound first.toText)
  | "!~" => .ofBool (!(patternIn second).isFound first.toText)
  | sign => .ofBool (compared sign first second)

def evaluate : Expr → Work Value
  | .value value => return value
  | .found pattern => return .ofBool (pattern.isFound (← get).record)
  | .name name => do
    let session ← get
    return if name == "NF".toList then .number session.fields.length
      else session.value (String.ofList name)
  | .field index => do
    let number := (← evaluate index).toInt.toNat
    let session ← get
    return .input (if number == 0 then session.record else session.fields.getD (number - 1) [])
  | .assign name value => do
    let value ← evaluate value
    setName name value
    return value
  | .negate inner => return .number (-(← evaluate inner).toInt)
  | .not inner => return .ofBool !(← evaluate inner).holds
  | .join first second => do
    let first ← evaluate first
    return .text (first.toText ++ (← evaluate second).toText)
  | .compute "~" first (.found pattern) => return .ofBool (pattern.isFound (← evaluate first).toText)
  | .compute "!~" first (.found pattern) => return .ofBool !(pattern.isFound (← evaluate first).toText)
  | .compute sign first second => do
    let first ← evaluate first
    return computed sign first (← evaluate second)

def perform : Action → Work Unit
  | .evaluate expression => do let _ ← evaluate expression
  | .print parts => do
    let texts ← parts.mapM fun part => Value.toText <$> evaluate part
    modify fun session =>
      let texts := if parts.isEmpty then [session.record] else texts
      { session with
        output := ((texts.intersperse (session.value "OFS").toText).flatten ++
          (session.value "ORS").toText) :: session.output }

def performAll (rules : List Rule) (selects : Selection → Work Bool) : Work Unit := do
  for rule in rules do
    if ← selects rule.selection then rule.actions.forM perform

def runRecord (rules : List Rule) (line : Octets) (number : Nat) : Work Unit := do
  setName "NR".toList (.number number)
  modify fun session => { session with record := line }
  performAll rules fun
    | .every => return true
    | .when condition => return (← evaluate condition).holds
    | _ => return false

def runAll (rules : List Rule) (lines : List Octets) : Work Unit := do
  performAll rules fun selection => return selection matches .first
  for (line, number) in lines.zipIdx 1 do runRecord rules line number
  performAll rules fun selection => return selection matches .last

def program : Program := fun starter name words =>
  let shown := baseName name
  Shell.program "F:v:" 2 (fun invocation => do
    match invocation.operands with
    | [] =>
      complain "Usage: mawk [Options] [Program] [file ...]".toList
      return 0
    | script :: files =>
      match read? script with
      | none =>
        complain (shown ++ ": line 1: syntax error".toList)
        return 2
      | some rules =>
        let isReading := rules.any fun rule => !(rule.selection matches .first)
        let mut text : Octets := []
        let mut status := 0
        for name in (if !isReading then [] else if files.isEmpty then [['-']] else files) do
          match ← readFile name with
          | .ok content => text := text ++ (Octets.ofLines (Octets.lines content))
          | .error fault =>
            complain (shown ++ ": cannot open ".toList ++ name ++ " (".toList ++
              (faultText fault).toList ++ [')'])
            status := 2
        let given := invocation.options.filterMap fun (letter, value) =>
          if letter == 'F' then
            some ("FS".toList, Value.text (if value == "\\t".toList then ['\t'] else value))
          else
            let name := value.takeWhile (· != '=')
            some (name, .input (value.drop (name.length + 1)))
        let usual := [("FS".toList, Value.text [' ']), ("OFS".toList, .text [' ']),
          ("ORS".toList, .text ['\n'])]
        let (_, session) := (runAll rules (Octets.lines text)).run ⟨given.reverse ++ usual, [], []⟩
        print session.output.reverse.flatten
        return status) starter shown words

end LocaleFamilies.Shell.Awk
