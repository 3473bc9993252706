import LocaleFamilies.Shell.RegexSyntax
import LocaleFamilies.Shell.Utility.Basic

/-! The line editor: a script of commands is carried out for each line of the input. The commands put out
a line, leave it out, end the work, or replace what is found in it. -/
namespace LocaleFamilies.Shell.Sed

inductive Address
  | line (number : Nat)
  | last
  | found (expression : Regex)

inductive Part
  | char (c : Char)
  | group (number : Nat)

structure Substitution where
  expression : Regex
  parts : List Part
  nth : Nat
  all : Bool
  prints : Bool

inductive Action
  | delete
  | print
  | quit
  | replace (substitution : Substitution)

structure Command where
  first : Option Address
  last : Option Address
  negated : Bool
  action : Action

structure Problem where
  message : Octets
  rest : Octets

abbrev Reading := StateT Octets (Except Problem)

def refuse {α : Type} (message : String) : Reading α := do throw ⟨message.toList, ← get⟩

def takeWhile (test : Char → Bool) : Reading Octets := do
  let text ← get
  set (text.dropWhile test)
  return text.takeWhile test

def accept (c : Char) : Reading Bool := do
  match ← get with
  | next :: rest =>
    if next == c then set rest
    return next == c
  | [] => return false

/-- The text up to a mark, before which a backslash keeps it from ending the text. -/
def upTo (mark : Char) : Octets → Option (Octets × Octets)
  | [] => none
  | '\\' :: c :: rest => do
    let (text, after) ← upTo mark rest
    return (if c == mark then c :: text else '\\' :: c :: text, after)
  | c :: rest =>
    if c == mark then some ([], rest)
    else do
      let (text, after) ← upTo mark rest
      return (c :: text, after)

def delimited (mark : Char) (problem : String) : Reading Octets := do
  match upTo mark (← get) with
  | some (text, rest) =>
    set rest
    return text
  | none =>
    set ([] : Octets)
    refuse problem

def readRegex (extended folded : Bool) (text : Octets) : Reading Regex := do
  if text.isEmpty then refuse "no previous regular expression"
  match Regex.read ⟨extended, folded, true, false⟩ text with
  | .ok expression => return expression
  | .error problem => refuse problem.message

def readAddress (extended : Bool) : Reading (Option Address) := do
  match ← get with
  | '$' :: rest =>
    set rest
    return some .last
  | '/' :: rest =>
    set rest
    let text ← delimited '/' "unterminated address regex"
    return some (.found (← readRegex extended false text))
  | _ =>
    match Octets.nat? (← takeWhile Char.isDigit) with
    | some number => return some (.line number)
    | none => return none

def partsOf : Octets → List Part
  | [] => []
  | '&' :: rest => .group 0 :: partsOf rest
  | '\\' :: c :: rest =>
    (if c.isDigit then .group (c.toNat - 48)
      else if c == 'n' then .char '\n'
      else if c == 't' then .char '\t'
      else .char c) :: partsOf rest
  | c :: rest => .char c :: partsOf rest

def readSubstitution (extended : Bool) : Reading Action := do
  let mark := (← get).headD '/'
  modify (List.drop 1)
  let unfinished := "unterminated `s' command"
  let text ← delimited mark unfinished
  let parts := partsOf (← delimited mark unfinished)
  let flags ← takeWhile fun c => c.isDigit || "gpiI".toList.contains c
  let expression ← readRegex extended (flags.any fun c => c == 'i' || c == 'I') text
  let isBad := parts.any fun
    | .group number => number > expression.groups
    | .char _ => false
  if isBad then refuse "invalid reference on `s' command's RHS"
  let nth := (Octets.nat? (flags.filter Char.isDigit)).getD 1
  return .replace ⟨expression, parts, nth, flags.contains 'g', flags.contains 'p'⟩

def readAction (extended : Bool) : Reading Action := do
  match ← get with
  | [] => refuse "missing command"
  | c :: rest =>
    set rest
    match c with
    | 'd' => return .delete
    | 'p' => return .print
    | 'q' => return .quit
    | 's' => readSubstitution extended
    | c => refuse ("unknown command: `".push c ++ "'")

def readCommand (extended : Bool) : Reading Command := do
  let first ← readAddress extended
  let final ← if ← accept ',' then readAddress extended else pure none
  let _ ← takeWhile (· == ' ')
  let negated ← accept '!'
  let action ← readAction extended
  let _ ← takeWhile (· == ' ')
  match ← get with
  | [] | ';' :: _ | '\n' :: _ => return ⟨first, final, negated, action⟩
  | _ :: rest =>
    set rest
    refuse (if action matches .replace _ then "unknown option to `s'"
      else "extra characters after command")

def readCommands (extended : Bool) : Nat → Reading (List Command)
  | 0 => return []
  | fuel + 1 => do
    let _ ← takeWhile fun c => c == ';' || Octets.isBlank c
    if (← get).isEmpty then return []
    let command ← readCommand extended
    return command :: (← readCommands extended fuel)

structure Line where
  text : Octets
  ended : Bool
  number : Nat
  isLast : Bool

def Address.isAt (line : Line) (space : Octets) : Address → Bool
  | .line number => line.number == number
  | .last => line.isLast
  | .found expression => expression.isFound space

/-- Whether a command is for a line, and whether the lines between its two addresses go on after it. -/
def Command.covers (command : Command) (line : Line) (space : Octets) (begun : Bool) : Bool × Bool :=
  let (covered, begun) := match command.first, command.last with
    | none, _ => (true, false)
    | some first, none => (first.isAt line space, false)
    | some first, some final =>
      if begun then (true, !final.isAt line space)
      else
        let starts := first.isAt line space
        -- A last line with a number may have gone by already.
        (starts, starts && match final with
          | .line number => line.number < number
          | _ => true)
  (covered != command.negated, begun)

def Substitution.put (substitution : Substitution) (found : Regex.Found) (space : Octets) : Octets :=
  substitution.parts.flatMap fun
    | .char c => [c]
    | .group number => found.group space number

def Substitution.spliced (substitution : Substitution) (space : Octets) : Nat → List Regex.Found → Octets
  | place, [] => space.drop place
  | place, found :: rest =>
    (space.take found.start).drop place ++ substitution.put found space ++
      substitution.spliced space found.stop rest

def Substitution.apply? (substitution : Substitution) (space : Octets) : Option Octets :=
  let places := (substitution.expression.searchAll space).drop (substitution.nth - 1)
  let places := if substitution.all then places else places.take 1
  if places.isEmpty then none else some (substitution.spliced space 0 places)

inductive Turn
  | through
  | drop
  | quit

/-- Carries out the commands for a line, each with whether its lines have begun; what they put out comes
last first. -/
def runLine (line : Line) : List (Command × Bool) → Octets → List Octets →
    List Bool × Octets × List Octets × Turn
  | [], space, output => ([], space, output, .through)
  | (command, begun) :: rest, space, output =>
    let (covered, begun) := command.covers line space begun
    let goOn (space : Octets) (output : List Octets) : List Bool × Octets × List Octets × Turn :=
      let (begins, result) := runLine line rest space output
      (begun :: begins, result)
    if !covered then goOn space output
    else
      match command.action with
      | .print => goOn space (space :: output)
      | .delete => (begun :: rest.map (·.2), space, output, .drop)
      | .quit => (begun :: rest.map (·.2), space, output, .quit)
      | .replace substitution =>
        match substitution.apply? space with
        | some space => goOn space (if substitution.prints then space :: output else output)
        | none => goOn space output

/-- Carries out the commands for lines; what is put out comes with whether it has an end. -/
def runLines (silent : Bool) (commands : List Command) : List Bool → List Line → List (Octets × Bool)
  | _, [] => []
  | begins, line :: rest =>
    let (begins, space, output, turn) := runLine line (commands.zip begins) line.text []
    let shown := if silent || turn matches .drop then output else space :: output
    let shown := shown.reverse.map fun text => (text, line.ended)
    if turn matches .quit then shown else shown ++ runLines silent commands begins rest

/-- A text of lines, where only the last one may have no end. -/
def joined : List (Octets × Bool) → Octets
  | [] => []
  | [(text, ended)] => if ended then text ++ ['\n'] else text
  | (text, _) :: rest => text ++ '\n' :: joined rest

def linesOf (text : Octets) : List Line :=
  let whole := Octets.wholeLines text
  (whole.zipIdx 1).map fun (line, number) =>
    let ended := line.getLast? == some '\n'
    ⟨if ended then line.dropLast else line, ended, number, number == whole.length⟩

def edited (silent : Bool) (commands : List Command) (text : Octets) : Octets :=
  joined (runLines silent commands (commands.map fun _ => false) (linesOf text))

def program : Program := Shell.program "nrEsie:" 1 fun invocation => do
  let given := (invocation.options.filter (·.1 == 'e')).map (·.2)
  let scripts := if given.isEmpty then invocation.operands.take 1 else given
  let files := if given.isEmpty then invocation.operands.drop 1 else invocation.operands
  if scripts.isEmpty then
    complain ("Usage: ".toList ++ invocation.name ++
      " [OPTION]... \x7bscript-only-if-no-other-script\x7d [input-file]...".toList)
    return 1
  let script := (scripts.intersperse ['\n']).flatten
  match (readCommands (invocation.hasAny "rE") (script.length + 1)).run script with
  | .error problem =>
    invocation.complain ("-e expression #1, char ".toList ++
      Octets.ofNat (script.length - problem.rest.length) ++ ": ".toList ++ problem.message)
    return 1
  | .ok (commands, _) =>
    let edit := edited (invocation.has 'n') commands
    let mut texts : List Octets := []
    let mut status := 0
    for name in (if files.isEmpty then [['-']] else files) do
      match ← readFile name with
      | .error fault =>
        invocation.blame "can't read " name fault
        status := 2
      | .ok text =>
        if invocation.has 'i' then
          match ← openFile .output name with
          | .ok number => writeTo number (edit text)
          | .error _ => status := 4
        else texts := texts ++ [text]
    -- A line without an end is not the last one if another file follows.
    let ended (text : Octets) : Octets :=
      if text.getLast?.any (· != '\n') then text ++ ['\n'] else text
    print (edit ((texts.dropLast.map ended).flatten ++ (texts.getLast?).getD []))
    return status

end LocaleFamilies.Shell.Sed
