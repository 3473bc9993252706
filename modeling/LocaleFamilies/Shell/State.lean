import LocaleFamilies.Shell.Pattern
import LocaleFamilies.Shell.Process
import LocaleFamilies.Shell.Reading

/-! The state of a shell: its variables, functions, arguments, options, traps and jobs. What it does may
be stopped, by an error, an exit or a signal, or by leaving a loop or a function. -/
namespace LocaleFamilies.Shell

structure Variable where
  value : Option Octets
  exported : Bool
  fixed : Bool

/-- A command that goes on beside the shell. It is carried out when the shell waits or ends, unless a
signal has come before. -/
structure Job where
  id : Nat
  ending : Option Ending
  body : Machine → Machine × Ending

structure State where
  process : Process
  starter : Starter
  name : Octets
  /-- The number of the shell, which those that it starts within itself share. -/
  rootId : Nat
  values : List (Octets × Variable)
  functions : List (Octets × Command)
  arguments : List Octets
  options : List Char
  /-- What is done at a signal, or at the end for the number zero. -/
  traps : List (Nat × Octets)
  /-- The signals that have come and whose traps are still to be carried out. -/
  caught : List Nat
  jobs : List Job
  lastJob : Option Nat
  status : Nat
  outputStatus : Nat
  documents : List (Nat × Word)
  documentCount : Nat
  line : Nat
  builtin : Option Octets
  loops : Nat
  functionDepth : Nat
  /-- The variables hidden by local ones, for each call that may have some. -/
  hidden : List (List (Octets × Option Variable))
  /-- The directory by the path it was entered by. -/
  place : Octets

inductive Stop
  | ended
  | failed
  | killed (signal : Nat)
  /-- So many loops are left; the last of them may go on with its next round. -/
  | loops (count : Nat) (goOn : Bool)
  | returned
  /-- Another program has taken the place of the shell, and has come to an end. -/
  | replaced (ending : Ending)
  deriving DecidableEq

abbrev Run := ExceptT Stop (StateM State)

def act {α : Type} (task : Task α) : Run α := do
  let state ← get
  let (result, process) := task.run state.process
  set { state with process := process }
  return result

def setStatus (status : Nat) : Run Unit := modify fun state => { state with status := status }

def State.complaint (state : State) (message : Octets) : Octets :=
  let builtin := match state.builtin with
    | some name => name ++ ": ".toList
    | none => []
  state.name ++ ": ".toList ++ Octets.ofNat state.line ++ ": ".toList ++ builtin ++ message

def warn (message : Octets) : Run Unit := do
  act (complain ((← get).complaint message))

def fail {α : Type} (message : Octets) : Run α := do
  setStatus 2
  warn message
  throw .failed

/-- Does something and then something else, even if the first was stopped. -/
def thenAlways {α : Type} (run : Run α) (after : Run Unit) : Run α := do
  let result ← tryCatch run fun stop => do
    after
    throw stop
  after
  return result

def State.has (state : State) (option : Char) : Bool := state.options.contains option

def State.slot? (state : State) (name : Octets) : Option Variable :=
  (state.values.find? (·.1 == name)).map (·.2)

def State.value? (state : State) (name : Octets) : Option Octets :=
  (state.slot? name).bind (·.value)

def State.valueOf (state : State) (name : String) : Octets := (state.value? name.toList).getD []

def State.withVariable (state : State) (name : Octets) (held : Option Variable) : State :=
  let others := state.values.filter (·.1 != name)
  { state with values := match held with
      | some found => (name, found) :: others
      | none => others }

def State.separators (state : State) : Octets := (state.value? "IFS".toList).getD " \t\n".toList

def assign (name : Octets) (value : Option Octets) (exported : Bool) : Run Unit := do
  let state ← get
  let old := (state.slot? name).getD ⟨none, false, false⟩
  if old.fixed then fail (name ++ ": is read only".toList)
  let exported := old.exported || exported || (state.has 'a' && value.isSome)
  set (state.withVariable name (some ⟨value, exported && value.isSome, false⟩))

def setVariable (name value : Octets) : Run Unit := assign name (some value) false

def hideVariable (name : Octets) : Run Unit := modify fun state =>
  match state.hidden with
  | frame :: rest =>
    { state with hidden := ((name, state.slot? name) :: frame) :: rest }
  | [] => state

/-- Brings hidden variables back until those of only so many calls are hidden. -/
def State.revealed (count : Nat) (state : State) : State :=
  let frames := state.hidden.take (state.hidden.length - count)
  let state := { state with hidden := state.hidden.drop frames.length }
  frames.flatten.foldl (fun state (name, found) => state.withVariable name found) state

/-- Does something after which the variables that it has hidden come back, unless the shell ends. -/
def withHiding {α : Type} (run : Run α) : Run α := do
  let depth := (← get).hidden.length
  modify fun state => { state with hidden := [] :: state.hidden }
  let result ← tryCatch run fun stop => do
    match stop with
    | .loops _ _ | .returned => modify (State.revealed depth)
    | _ => pure ()
    throw stop
  modify (State.revealed depth)
  return result

def State.environment (state : State) : List (Octets × Octets) :=
  state.values.filterMap fun (name, found) =>
    if found.exported then found.value.map fun value => (name, value) else none

/-- The signals that only a trap can make something else of than an end. -/
def deadlySignals : List Nat :=
  [1, 2, 3, 4, 5, 6, 7, 8, 9, 10, 11, 12, 13, 14, 15, 16, 24, 25, 26, 27, 29, 30, 31]

def signalNames : List String :=
  ["EXIT", "HUP", "INT", "QUIT", "ILL", "TRAP", "ABRT", "BUS", "FPE", "KILL", "USR1", "SEGV", "USR2",
    "PIPE", "ALRM", "TERM", "STKFLT", "CHLD", "CONT", "STOP", "TSTP", "TTIN", "TTOU", "URG", "XCPU",
    "XFSZ", "VTALRM", "PROF", "WINCH", "IO", "PWR", "SYS"]

def signal? (name : Octets) : Option Nat :=
  match Octets.nat? name with
  | some number => if number < 65 then some number else none
  | none => signalNames.idxOf? (String.ofList (name.map Char.toUpper))

def heed : Run Unit := do
  for signal in ← act takeSignals do
    match (← get).traps.find? (·.1 == signal) with
    | some (_, []) => if signal == 9 then throw (.killed signal)
    | some _ =>
      if signal == 9 then throw (.killed signal)
      modify fun state => { state with caught := state.caught ++ [signal] }
    | none => if deadlySignals.contains signal then throw (.killed signal)

def obituaries : List (Nat × String) :=
  [(1, "Hangup"), (3, "Quit"), (4, "Illegal instruction"), (5, "Trace/breakpoint trap"),
    (6, "Aborted"), (7, "Bus error"), (8, "Floating point exception"), (9, "Killed"),
    (10, "User defined signal 1"), (11, "Segmentation fault"), (12, "User defined signal 2"),
    (14, "Alarm clock"), (15, "Terminated"), (16, "Stack fault"), (24, "CPU time limit exceeded"),
    (25, "File size limit exceeded"), (26, "Virtual timer expired"), (27, "Profiling timer expired"),
    (29, "I/O possible"), (30, "Power failure"), (31, "Bad system call")]

def mourn (ending : Ending) : Run Unit := do
  match ending with
  | .signalled number =>
    match obituaries.find? (·.1 == number) with
    | some (_, text) => act (complain text.toList)
    | none => pure ()
  | .exited _ => pure ()

def conclude (ending : Ending) : Run Unit := do
  mourn ending
  heed
  setStatus ending.status

def finishJob (id : Nat) : Run (Option Ending) := do
  match (← get).jobs.find? fun job => job.id == id with
  | none => return none
  | some ⟨_, some ending, _⟩ => return some ending
  | some ⟨_, none, body⟩ =>
    let state ← get
    let (machine, ending) := body state.process.machine
    set { state with
      process := { state.process with machine := machine }
      jobs := state.jobs.map fun (job : Job) =>
        if job.id == id then { job with ending := some ending } else job }
    return some ending

def finishJobs : Run Unit := do
  (← get).jobs.reverse.forM fun (job : Job) => do let _ ← finishJob job.id

end LocaleFamilies.Shell
