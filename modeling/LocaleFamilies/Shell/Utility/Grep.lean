import LocaleFamilies.Shell.RegexSyntax
import LocaleFamilies.Shell.Utility.Filing

/-! The program that looks for lines which an expression is found in. -/
namespace LocaleFamilies.Shell.Grep

def pattern (invocation : Invocation) (text : Octets) : Except Octets Regex := do
  let kind := invocation.lastOf "EFG"
  let style : Regex.Style := ⟨kind == some 'E', invocation.has 'i', false, true⟩
  let inner ← if kind == some 'F' then
      pure (text.foldr (fun c rest => Regex.both (Regex.exactly style c) rest) Regex.empty)
    else (Regex.read style text).mapError fun problem => problem.message.toList
  let isIn (c : Option Char) : Bool := (c.map Regex.isWord).getD false
  return if invocation.has 'x' then .both Regex.atFront (.both inner Regex.atBack)
    else if invocation.has 'w' then
      .both (.place fun before _ => !isIn before) (.both inner (.place fun _ after => !isIn after))
    else inner

def patterns (invocation : Invocation) : List Octets → Except Octets Regex
  | [] => .ok (.one fun _ => false)
  | [text] => pattern invocation text
  | text :: rest => return .either (← pattern invocation text) (← patterns invocation rest)

def told (invocation : Invocation) (expression : Regex) (lead line : Octets) : Octets :=
  if !invocation.has 'o' then lead ++ line ++ ['\n']
  else if invocation.has 'v' then []
  else
    (expression.searchAll line).flatMap fun found =>
      if found.start == found.stop then [] else lead ++ found.group line 0 ++ ['\n']

def searchText (invocation : Invocation) (expression : Regex) (named : Bool) (file text : Octets) :
    Task Bool := do
  let found := ((Octets.lines text).zipIdx 1).filter fun (line, _) =>
    expression.isFound line != invocation.has 'v'
  let found := match (invocation.text? 'm').bind Octets.nat? with
    | some most => found.take most
    | none => found
  let lead : Octets := if named then file ++ [':'] else []
  if invocation.has 'q' then pure ()
  else if invocation.has 'l' then print (if found.isEmpty then [] else file ++ ['\n'])
  else if invocation.has 'L' then print (if found.isEmpty then file ++ ['\n'] else [])
  else if invocation.has 'c' then print (lead ++ Octets.ofNat found.length ++ ['\n'])
  else if text.contains (Char.ofNat 0) && !invocation.has 'a' then
    if !found.isEmpty then invocation.complain (file ++ ": binary file matches".toList)
  else
    print (found.flatMap fun (line, number) =>
      told invocation expression
        (lead ++ if invocation.has 'n' then Octets.ofNat number ++ [':'] else []) line)
  return !found.isEmpty

def expanded (invocation : Invocation) (name : Octets) : Task (List Octets) := do
  match ← entryOf true name with
  | .ok (location, .directory) =>
    if !invocation.hasAny "rR" then return [name]
    return (subtree (← get).tree location).filterMap fun (way, entry) =>
      match entry with
      | .file _ _ => some (way.foldl (fun path part => below path (Octets.ofBytes part)) name)
      | _ => none
  | _ => return [name]

def carryOut (invocation : Invocation) (expression : Regex) (operands : List Octets) : Task Nat := do
  let files := (← operands.mapM (expanded invocation)).flatten
  let named := !invocation.has 'h' &&
    (invocation.has 'H' || operands.length > 1 || invocation.hasAny "rR" && files != operands)
  let mut isFound := false
  let mut failed := false
  for file in files do
    if !invocation.hasAny "qlLc" && (← isOutput file) then
      invocation.complain (file ++ ": input file is also the output".toList)
      failed := true
      continue
    match ← readFile file with
    | .ok text =>
      let name := if file == ['-'] then "(standard input)".toList else file
      if ← searchText invocation expression named name text then isFound := true
    | .error fault =>
      failed := true
      if !invocation.has 's' then invocation.blame "" file fault
  return if isFound && (invocation.has 'q' || !failed) then 0 else if failed then 2 else 1

/-- The program, as another name may ask for a kind of expressions. -/
def program (kind : Option Char) : Program := fun starter name words =>
  Shell.program "EFGe:ivwxcolLqshHnm:rRa" 2 (fun invocation => do
    let invocation := { invocation with
      options := (kind.map fun letter => (letter, [])).toList ++ invocation.options }
    let given := (invocation.options.filter (·.1 == 'e')).map (·.2)
    match given, invocation.operands with
    | [], [] =>
      complain ("Usage: ".toList ++ name ++ " [OPTION]... PATTERNS [FILE]...".toList)
      complain ("Try '".toList ++ name ++ " --help' for more information.".toList)
      return 2
    | given, operands =>
      let texts := if given.isEmpty then operands.take 1 else given
      let operands := if given.isEmpty then operands.drop 1 else operands
      let operands := if operands.isEmpty then [['-']] else operands
      match patterns invocation (texts.flatMap (pieces (· == '\n'))) with
      | .error message =>
        invocation.complain message
        return 2
      | .ok expression => carryOut invocation expression operands) starter name words

end LocaleFamilies.Shell.Grep
