import LocaleFamilies.Shell.Condition
import LocaleFamilies.Shell.Utility.Basic

/-! The programs that put out what they are told, that judge conditions, and that count. -/
namespace LocaleFamilies.Shell

def silentProgram (status : Nat) : Program := fun _ _ _ => return .exited status

/-- The options in front of what is to be put out: whether a line end is left out, whether escapes are
carried out, and the other words. -/
def spokenOptions : List Octets → Bool → Bool → Bool × Bool × List Octets
  | ('-' :: letters) :: rest, bare, escapes =>
    if letters.isEmpty || !letters.all ("neE".toList.contains ·) then
      (bare, escapes, ('-' :: letters) :: rest)
    else
      spokenOptions rest (bare || letters.contains 'n')
        (letters.foldl (fun escapes c => if c == 'n' then escapes else c == 'e') escapes)
  | words, bare, escapes => (bare, escapes, words)

def echoProgram : Program := fun _ _ words => do
  let (bare, escapes, words) := spokenOptions words false false
  let text := (words.intersperse [' ']).flatten
  let work := if escapes then Printing.unescaped text else ⟨text.reverse, [], [], false, false, false⟩
  print (if bare || work.stopped then work.output else '\n' :: work.output).reverse
  return .exited 0

def printfProgram : Program := fun starter name words => do
  let words := match words with
    | ['-', '-'] :: rest => rest
    | words => words
  match words with
  | [] => return .exited (← Invocation.refuse ⟨starter, name, [], []⟩ "missing operand".toList 1)
  | format :: arguments =>
    let work := Printing.run Printing.program format arguments
    print work.output.reverse
    for problem in work.problems do complain (name ++ ": ".toList ++ problem)
    match work.arguments with
    | extra :: _ =>
      if !(work.refused || work.stopped) then
        complain (name ++ ": warning: ignoring excess arguments, starting with ".toList ++
          Printing.inQuotes extra)
    | [] => pure ()
    return .exited (if work.failed || work.refused then 1 else 0)

def testProgram (bracketed : Bool) : Program := fun _ name words => do
  let fail (message : Octets) : Task Ending := do
    complain (name ++ ": ".toList ++ message)
    return .exited 2
  if bracketed && words.getLast? != some [']'] then return ← fail "missing ']'".toList
  let words := if bracketed then words.dropLast else words
  match Condition.holds (Condition.facts (← get)) words with
  | .ok holds => return .exited (if holds then 0 else 1)
  | .error (.illegal number) => fail ("invalid integer ".toList ++ Printing.inQuotes number)
  | .error (.missing operator) => fail ("missing argument after ".toList ++ Printing.inQuotes operator)
  | .error (.unexpected word) =>
    match words with
    | [_, last] => fail ("missing argument after ".toList ++ Printing.inQuotes last)
    | _ => fail ("extra argument ".toList ++ Printing.inQuotes word)
  | .error .unclosed => fail "')' expected".toList

def pwdProgram : Program := program "LP" 1 fun _ => do
  print (Octets.ofBytes (FileTree.pathTo (← get).directory).spelling ++ ['\n'])
  return 0

def seqProgram : Program := program "s:w" 1 fun invocation => do
  match invocation.operands.find? fun text => (Octets.int? text).isNone with
  | some text => invocation.refuse ("invalid floating point argument: ".toList ++ quotedName text) 1
  | none =>
    let show' (first step last : Int) : Task Nat := do
      if step == 0 then return ← invocation.refuse "invalid Zero increment value: '0'".toList 1
      let count := ((last - first) / step + 1).toNat
      let values := (List.range count).map fun (n : Nat) => first + step * (n : Int)
      let width := if invocation.has 'w' then
        (values.map fun value => (Octets.ofInt value).length).foldl max 0 else 0
      let texts := values.map (Layout.ofInt ⟨['0'], width, none⟩)
      if !texts.isEmpty then
        print ((texts.intersperse ((invocation.text? 's').getD ['\n'])).flatten ++ ['\n'])
      return 0
    match invocation.operands.filterMap Octets.int? with
    | [last] => show' 1 1 last
    | [first, last] => show' first 1 last
    | [first, step, last] => show' first step last
    | [] => invocation.refuse "missing operand".toList 1
    | _ => invocation.refuse ("extra operand ".toList ++ quotedName (invocation.operands.getD 3 [])) 1

end LocaleFamilies.Shell
