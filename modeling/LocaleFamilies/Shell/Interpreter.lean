import LocaleFamilies.Shell.Evaluation
import LocaleFamilies.Shell.Utility.Basic

/-! The shell as a program. Its script is an argument, a file or its input. -/
namespace LocaleFamilies.Shell

def defaultDirectories : Octets :=
  "/usr/local/sbin:/usr/local/bin:/usr/sbin:/usr/bin:/sbin:/bin".toList

def depthLimit : Nat := 20000

def State.start (starter : Starter) (name : Octets) (process : Process) : State :=
  let place := physicalPath process.directory
  let inherited := process.environment.filterMap fun (name, value) =>
    if Octets.isName name && name != "IFS".toList && name != "PWD".toList then
      some (name, (⟨some value, true, false⟩ : Variable))
    else none
  let own : List (Octets × Variable) :=
    [("IFS", " \t\n"), ("OPTIND", "1"), ("PS1", "# "), ("PS2", "> "), ("PS4", "+ "),
      ("PPID", String.ofList (Octets.ofNat process.parent))].map fun (name, value) =>
        (name.toList, ⟨some value.toList, false, false⟩)
  let path : List (Octets × Variable) :=
    if inherited.any (·.1 == "PATH".toList) then []
    else [("PATH".toList, ⟨some defaultDirectories, false, false⟩)]
  let others := inherited.filter fun entry => !own.any (·.1 == entry.1)
  { process := process
    starter := starter
    name := name
    rootId := process.id
    values := ("PWD".toList, ⟨some place, true, false⟩) :: own ++ path ++ others
    functions := []
    arguments := []
    options := []
    traps := process.ignored.map fun signal => (signal, [])
    caught := []
    jobs := []
    lastJob := none
    status := 0
    outputStatus := 0
    documents := []
    documentCount := 0
    line := 0
    builtin := none
    loops := 0
    functionDepth := 0
    hidden := []
    place := place }

def runWords (words : List Octets) : Run Unit := do
  let evaluate := evaluate depthLimit
  let asked ← setOptions true (words.length + 1) false words
  let named (words : List Octets) : Run Unit := modify fun state =>
    match words with
    | name :: rest => { state with name := name, arguments := rest }
    | [] => state
  let runInput : Run Unit := do
    match ← act (readAll 0) with
    | .ok text => runText evaluate false text
    | .error _ => return ()
  match asked.script, asked.words with
  | true, [] => fail "-c requires an argument".toList
  | true, text :: rest =>
    named rest
    let reads := (← get).has 's'
    runText evaluate false text
    if reads then runInput
  | false, [] =>
    switch 's' true
    runInput
  | false, file :: rest =>
    let state ← get
    if state.has 's' then
      modify fun state => { state with arguments := file :: rest }
      runInput
    else
      match state.process.tree.read state.process.directory file.path with
      | .ok content =>
        named (file :: rest)
        runText evaluate false (Octets.ofBytes content)
      | .error .isDirectory => named (file :: rest)
      | .error fault =>
        let cause := if isAbsence fault then "No such file" else faultText fault
        fail ("cannot open ".toList ++ file ++ ": ".toList ++ cause.toList)

def interpreter : Program := fun starter name words => do
  let state := State.start starter name (← get)
  let run : Run Ending := concludeShell (evaluate depthLimit) (runWords words)
  let (result, state) := run.run.run state
  modify fun process => { process with machine := state.process.machine }
  return match result with
    | .ok ending => ending
    | .error _ => .exited 2

end LocaleFamilies.Shell
