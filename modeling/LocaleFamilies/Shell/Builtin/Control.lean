import LocaleFamilies.Shell.Builtin.Basic
import LocaleFamilies.Shell.Modes

/-! The builtin commands about the course of scripts, about jobs and about signals. -/
namespace LocaleFamilies.Shell

def runLeave (goOn : Bool) : Work := fun call => do
  let count ← match call.arguments with
    | [] => pure 1
    | word :: _ => numberIn word
  if count == 0 then fail ("Illegal number: ".toList ++ (call.arguments.headD []))
  let loops := (← get).loops
  if loops == 0 then return 0
  setStatus 0
  throw (.loops (min count loops) goOn)

def runReturn : Work := fun call => do
  match call.arguments with
  | [] => throw .returned
  | word :: _ =>
    setStatus (← numberIn word)
    throw .returned

def runExit : Work := fun call => do
  match call.arguments with
  | [] => throw .ended
  | word :: _ =>
    setStatus (← numberIn word)
    throw .ended

def runEval : Work := fun call => do
  match call.arguments with
  | [] => return 0
  | words =>
    runText call.evaluate call.tested (words.intersperse [' ']).flatten
    return (← get).status

def runFile : Work := fun call => do
  let (_, words) ← call.options ""
  match words with
  | [] => return 0
  | name :: _ =>
    let state ← get
    let candidates := candidates state.directories name
    let read (file : Octets) : Except Fault Bytes :=
      state.process.tree.read state.process.directory file.path
    let file? := candidates.find? fun file => name.contains '/' || (read file).isOk
    match file? with
    | none => fail (name ++ ": not found".toList)
    | some file =>
      match read file with
      | .error fault =>
        let cause := if isAbsence fault then "No such file" else faultText fault
        if fault == .isDirectory then return 0
        else fail ("cannot open ".toList ++ file ++ ": ".toList ++ cause.toList)
      | .ok content =>
        modify fun state => { state with builtin := some file }
        tryCatch (runText call.evaluate false (Octets.ofBytes content)) fun stop => do
          if stop != .returned then throw stop
        return (← get).status

def runExec : Work := fun call => do
  let (_, words) ← call.options ""
  match words with
  | [] => return 0
  | words =>
    let state ← get
    match ← findProgram state.directories (words.headD []) with
    | .ok _ => throw (.replaced (← runProgram state.directories words))
    | .error fault =>
      let (message, status) := notRunnable (words.headD []) fault
      setStatus status
      warn message
      throw .ended

def isKeyword (name : Octets) : Bool := reservedWords.contains (String.ofList name)

def runTrap : Work := fun call => do
  let (_, words) ← call.options ""
  match words with
  | [] => return 0
  | first :: rest =>
    let (action, names) := if rest.isEmpty then (['-'], words)
      else if (signal? first).isSome && (Octets.nat? first).isSome then (['-'], words)
      else (first, rest)
    for name in names do
      match signal? name with
      | none =>
        act (complain ("trap: ".toList ++ name ++ ": bad trap".toList))
        return 1
      | some signal => modify fun state =>
          let others := state.traps.filter (·.1 != signal)
          { state with traps := if action == ['-'] then others else (signal, action) :: others }
    return 0

def killUsage : String :=
  "Usage: kill [-s sigspec | -signum | -sigspec] [pid | job]... or\nkill -l [exitstatus]"

def signalIn (words : List Octets) : Run (Nat × List Octets) := do
  match words with
  | ['-', '-'] :: rest => return (15, rest)
  | ['-', 's'] :: name :: rest =>
    match signal? name with
    | some signal => return (signal, rest)
    | none => fail ("invalid signal number or name: ".toList ++ name)
  | ['-', 's'] :: [] => fail "No arg for -s option".toList
  | ('-' :: first :: name) :: rest =>
    match signal? (first :: name) with
    | some signal => return (signal, match rest with
        | ['-', '-'] :: rest => rest
        | rest => rest)
    | none => fail ("Illegal option -".toList ++ [first])
  | words => return (15, words)

def runKill : Work := fun call => do
  match call.arguments with
  | [] => fail killUsage.toList
  | words =>
    let (signal, targets) ← signalIn words
    if targets.isEmpty then fail killUsage.toList
    let mut status := 0
    for target in targets do
      let id ← numberIn target
      let state ← get
      if state.process.machine.alive.contains id then
        if signal != 0 then act (sendSignal id signal)
      else
        warn "No such process\n".toList
        status := 1
    heed
    return status

def runWait : Work := fun call => do
  let (_, words) ← call.options ""
  if words.isEmpty then
    finishJobs
    heed
    return 0
  let mut status := 127
  for word in words do
    let id ← numberIn word
    match ← finishJob id with
    | some ending =>
      mourn ending
      status := ending.status
    | none => status := 127
  heed
  return status

def describe (short : Bool) (name : Octets) (special? : Option Bool) : Run Nat := do
  let state ← get
  let tell (long : String) : Run Nat := do
    act (print (name ++ (if short then [] else long.toList) ++ ['\n']))
    return 0
  if isKeyword name then tell " is a shell keyword"
  else if state.functions.any (·.1 == name) then tell " is a shell function"
  else if let some special := special? then
    tell (if special then " is a special shell builtin" else " is a shell builtin")
  else
    match ← findProgram state.directories name with
    | .ok file =>
      act (print ((if short then file else name ++ " is ".toList ++ file) ++ ['\n']))
      return 0
    | .error _ =>
      if !short then act (print (name ++ ": not found\n".toList))
      return 127

def runUmask : Work := fun call => do
  let process := (← get).process
  match call.arguments with
  | [] =>
    let digits := Nat.toDigits 8 process.mask
    act (print (List.replicate (4 - digits.length) '0' ++ digits ++ ['\n']))
  | word :: _ =>
    match octal? word with
    | some mask => modify fun state => { state with process := { process with mask := mask &&& 0o777 } }
    | none => fail ("Illegal number: ".toList ++ word)
  return 0

end LocaleFamilies.Shell
