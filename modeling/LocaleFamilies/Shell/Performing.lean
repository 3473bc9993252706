import LocaleFamilies.Shell.Expansion

/-! Carrying out scripts. A script is carried out portion by portion, in the shell itself or in one of
its own, which sees the variables as they are and leaves no trace but on the machine. How a command is
carried out is a parameter. -/
namespace LocaleFamilies.Shell

structure Setting where
  tested : Bool
  last : Bool

abbrev Evaluator := Setting → Command → Run Unit

def atLine (line : Nat) : Run Unit := modify fun state => { state with line := line }

def readPortion (reader : Reader) : Run (Portion × Reader) := do
  let state ← get
  let reader := { reader with
    documents := []
    count := state.documentCount }
  match nextPortion.run reader with
  | .error mistake =>
    atLine mistake.line
    fail ("Syntax error: ".toList ++ mistake.message.toList)
  | .ok (portion, reader) =>
    modify fun state => { state with
      documents := reader.documents ++ state.documents
      documentCount := reader.count }
    return (portion, reader)

/-- Carries out what is left of a script. The status is that of the last command in it. -/
def runPortions (evaluate : Evaluator) (tested : Bool) : Nat → Nat → Reader → Run Unit
  | 0, status, _ => setStatus status
  | fuel + 1, status, reader => do
    let (portion, reader) ← readPortion reader
    match portion with
    | .ended => setStatus status
    | .command none => runPortions evaluate tested fuel status reader
    | .command (some command) =>
      evaluate ⟨tested, false⟩ command
      runPortions evaluate tested fuel (← get).status reader

def runText (evaluate : Evaluator) (tested : Bool) (text : Octets) : Run Unit := do
  runPortions evaluate tested (text.length + 2) 0 (Reader.start text 0)

def runTraps (evaluate : Evaluator) : Run Unit := do
  let state ← get
  if state.caught.isEmpty then return ()
  set { state with caught := [] }
  for signal in state.caught.mergeSort do
    match state.traps.find? (·.1 == signal) with
    | some (_, action) =>
      runText evaluate false action
      setStatus state.status
    | none => pure ()

def concludeShell (evaluate : Evaluator) (run : Run Unit) : Run Ending := do
  let stop ← tryCatch (do
    run
    return Stop.ended) fun stop => return stop
  let ending : Ending ← (do
    match stop with
    | .killed signal => return .signalled signal
    | .replaced ending => return ending
    | _ =>
      let state ← get
      match state.traps.find? (·.1 == 0) with
      | some (_, action) =>
        set { state with traps := state.traps.filter (·.1 != 0) }
        let stop ← tryCatch (do
          runText evaluate false action
          return Stop.returned) fun stop => return stop
        match stop with
        | .killed signal => return .signalled signal
        | .ended | .failed => return .exited ((← get).status % 256)
        | _ => return .exited (state.status % 256)
      | none => return .exited (state.status % 256) : Run Ending)
  tryCatch finishJobs fun _ => return ()
  return ending

/-- A shell within a shell: the traps of the outer one, unless they ignore a signal, are not for it,
and neither are its jobs. -/
def State.within (state : State) (id : Nat) : State :=
  { state with
    process := { state.process with
      id := id
      parent := if id == state.process.id then state.process.parent else state.process.id }
    traps := state.traps.filter (·.2.isEmpty)
    caught := []
    jobs := [] }

def asSubshell (evaluate : Evaluator) (run : Run Unit) : Run Ending := do
  let id ← act newId
  let outer ← get
  set (outer.within id)
  let ending ← concludeShell evaluate run
  modify fun inner => { outer with
    process := { outer.process with machine := inner.process.machine.without id }
    documents := inner.documents
    documentCount := inner.documentCount }
  return ending

def runBeside (evaluate : Evaluator) (command : Command) : Run Unit := do
  let id ← act newId
  let (nothing, process) := (← get).process.addChannel .sink
  modify fun state => { state with process := process.connect 0 nothing }
  let start := (← get).within id
  modify fun state => { state with process := { state.process with streams := process.streams } }
  let body (machine : Machine) : Machine × Ending :=
    let start := { start with process := { start.process with machine := machine } }
    let run : Run Ending := concludeShell evaluate do
      heed
      evaluate ⟨false, true⟩ command
    let (result, finish) := run.run.run start
    (finish.process.machine.without id,
      match result with
      | .ok ending => ending
      | .error _ => .exited 2)
  modify fun state => { state with
    jobs := ⟨id, none, body⟩ :: state.jobs
    lastJob := some id }
  setStatus 0

def capture (evaluate : Evaluator) (command : Command) : Run Octets := do
  if command matches .sequence [] then
    modify fun state => { state with outputStatus := 0 }
    return []
  let (number, process) := (← get).process.addChannel (.pipe #[] 0)
  let streams := process.streams
  modify fun state => { state with process := process.connect 1 number }
  let ending ← asSubshell evaluate (evaluate ⟨false, true⟩ command)
  modify fun state => { state with process := { state.process with streams := streams } }
  let output ← act (takeFrom number List.length)
  modify fun state => { state with process := state.process.setChannel number .sink }
  mourn ending
  heed
  modify fun state => { state with outputStatus := ending.status }
  return output

def findProgram (directories name : Octets) : Run (Except Fault Octets) := do
  return firstRunnable (← get).process (candidates directories name) .notFound

def State.directories (state : State) : Octets := state.valueOf "PATH"

def notRunnable (name : Octets) (fault : Fault) : Octets × Nat :=
  let status := match fault with
    | .notFound | .notDirectory | .nameTooLong | .tooManyLinks => 127
    | _ => 126
  (name ++ ": ".toList ++ (if isAbsence fault then "not found" else faultText fault).toList, status)

def runProgram (directories : Octets) (words : List Octets) : Run Ending := do
  let state ← get
  let name := words.headD []
  let outcome ← (do
    match ← findProgram directories name with
    | .ok file => act (do
        modify fun process => { process with
          environment := state.environment
          ignored := (state.traps.filter (·.2.isEmpty)).map (·.1) }
        startFile state.starter file words)
    | .error fault => return .error fault : Run (Except Fault Ending))
  match outcome with
  | .ok ending => return ending
  | .error fault =>
    let (message, status) := notRunnable name fault
    warn message
    return .exited status

def runProgramBeside (directories : Octets) (words : List Octets) : Run Ending := do
  if words.head? == some "sleep".toList then finishJobs
  let id ← act newId
  let outer ← get
  set { outer with process := { outer.process with id := id, parent := outer.process.id } }
  let ending ← runProgram directories words
  modify fun inner =>
    { outer with process := { outer.process with machine := inner.process.machine.without id } }
  return ending

inductive Connection
  | file (stream : Nat) (opening : Opening) (path : Octets)
  | copy (stream : Nat) (source : Option Nat)
  | document (stream number : Nat)

def Connection.stream : Connection → Nat
  | file stream _ _ => stream
  | copy stream _ => stream
  | document stream _ => stream

def connection (evaluate : Evaluator) : Redirection → Run Connection
  | .file stream opening target => do
    return .file stream opening (← expandText (capture evaluate) false target)
  | .copy stream source => do
    match ← expandText (capture evaluate) false source with
    | ['-'] => return .copy stream none
    | [c] =>
      if c.isDigit then return .copy stream (some (c.toNat - 48))
      else fail "Syntax error: Bad fd number".toList
    | _ => fail "Syntax error: Bad fd number".toList
  | .document stream number => return .document stream number

def connect (stream channel : Nat) : Run Unit := modify fun state =>
  { state with process := state.process.connect stream channel }

def establish (evaluate : Evaluator) : Connection → Run Unit
  | .file stream opening path => do
    let state ← get
    let isPresent := match state.process.tree.entryAt state.process.directory true path.path with
      | .ok (_, .file _ _) => true
      | _ => false
    let isInput := opening == .input
    if opening == .output && state.has 'C' && isPresent then
      fail ("cannot create ".toList ++ path ++ ": File exists".toList)
    match ← act (openFile opening path) with
    | .ok channel => connect stream channel
    | .error fault =>
      let cause := if !isAbsence fault then faultText fault
        else if isInput then "No such file" else "Directory nonexistent"
      fail ((if isInput then "cannot open " else "cannot create ").toList ++ path ++ ": ".toList ++
        cause.toList)
  | .copy stream none => modify fun state =>
    { state with process := state.process.close stream }
  | .copy stream (some source) => do
    if source == stream then return ()
    match (← get).process.channel? source with
    | some channel => connect stream channel
    | none => fail (Octets.ofNat source ++ ": Bad file descriptor".toList)
  | .document stream number => do
    let word := ((← get).documents.find? (·.1 == number)).map (·.2)
    let text ← expandText (capture evaluate) false (word.getD [])
    let (channel, process) := (← get).process.addChannel (.pipe text.toArray 0)
    modify fun state => { state with process := process }
    connect stream channel

def establishAll (evaluate : Evaluator) (connections : List Connection) : Run (Bool × Run Unit) := do
  let before := (← get).process
  let streams := connections.map Connection.stream
  let restore : Run Unit := modify fun state =>
    { state with process := { state.process with
        streams := state.process.streams.filter (fun entry => !streams.contains entry.1) ++
          before.streams.filter fun entry => streams.contains entry.1 } }
  let isOpen ← tryCatch (do
    connections.forM (establish evaluate)
    return true) fun stop => do
      if stop == .failed then return false else throw stop
  return (isOpen, restore)

def redirected (evaluate : Evaluator) (redirections : List Redirection) (run : Run Unit) :
    Run Unit := do
  let connections ← redirections.mapM (connection evaluate)
  let (isOpen, restore) ← establishAll evaluate connections
  thenAlways (if isOpen then run else setStatus 2) restore

end LocaleFamilies.Shell
