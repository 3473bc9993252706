import LocaleFamilies.Shell.Builtin.Control
import LocaleFamilies.Shell.Builtin.Text
import LocaleFamilies.Shell.Builtin.Variables

/-! Carrying out commands. The words of a simple command are expanded, its streams are redirected, its
variables are set, and then a function, a builtin command or a program is carried out; the other
commands carry out those inside them. -/
namespace LocaleFamilies.Shell

structure Builtin where
  special : Bool
  assigns : Bool
  work : Work

def runType (special? : Octets → Option Bool) : Work := fun call => do
  let mut status := 0
  for word in call.arguments do
    status := max status (← describe false word (special? word))
  return status

def runCommand (special? : Octets → Option Bool) : Work := fun call => do
  let (options, words) ← call.options "pvV"
  match words with
  | [] => return 0
  | word :: _ =>
    match options.getLast?.map (·.1) with
    | some 'v' => describe true word (special? word)
    | some 'V' => describe false word (special? word)
    | _ => return 0

def ordinaryBuiltins : List (String × Builtin) :=
  let done (status : Nat) : Work := fun _ => return status
  let special (work : Work) : Builtin := ⟨true, false, work⟩
  let plain (work : Work) : Builtin := ⟨false, false, work⟩
  [(".", special runFile), (":", special (done 0)), ("[", plain runTest),
    ("break", special (runLeave false)), ("cd", plain runCd), ("continue", special (runLeave true)),
    ("echo", plain runEcho), ("eval", special runEval), ("exec", special runExec),
    ("exit", special runExit), ("export", ⟨true, true, runMark false⟩), ("false", plain (done 1)),
    ("kill", plain runKill), ("local", ⟨true, true, runLocal⟩), ("printf", plain runPrintf),
    ("pwd", plain runPwd), ("read", plain runRead), ("readonly", ⟨true, true, runMark true⟩),
    ("return", special runReturn), ("set", special runSet), ("shift", special runShift),
    ("test", plain runTest), ("trap", special runTrap), ("true", plain (done 0)),
    ("umask", plain runUmask), ("unset", special runUnset), ("wait", plain runWait)]

def isSpecial? (name : Octets) : Option Bool :=
  let text := String.ofList name
  if text == "type" || text == "command" then some false
  else (ordinaryBuiltins.find? (·.1 == text)).map (·.2.special)

def builtin? (name : Octets) : Option Builtin :=
  match String.ofList name with
  | "type" => some ⟨false, false, runType isSpecial?⟩
  | "command" => some ⟨false, false, runCommand isSpecial?⟩
  | text => (ordinaryBuiltins.find? (·.1 == text)).map (·.2)

inductive Target
  | function (body : Command)
  | builtin (builtin : Builtin)
  | program

def State.target (state : State) (functions : Bool) (name : Octets) : Target :=
  match (if functions then state.functions.find? (·.1 == name) else none) with
  | some (_, body) => .function body
  | none =>
    match builtin? name with
    | some builtin => .builtin builtin
    | none => .program

structure Draw where
  fields : List Octets
  rest : List Word

def Draw.more (capture : Capture) (draw : Draw) : List Word → Run Draw
  | [] => return { draw with rest := [] }
  | word :: rest => do
    match ← expand capture word with
    | [] => Draw.more capture draw rest
    | fields => return ⟨draw.fields ++ fields, rest⟩

def Draw.ensure (capture : Capture) (draw : Draw) (index : Nat) : Run Draw := do
  if index < draw.fields.length then return draw else Draw.more capture draw draw.rest

/-- The place of the command after the one that carries out commands, and whether it is to be found in
the usual directories; none if something else is asked of it. -/
def operandPlace (capture : Capture) : Nat → Nat → Bool → Draw → Run (Draw × Option (Nat × Bool))
  | 0, _, _, draw => return (draw, none)
  | fuel + 1, index, usual, draw => do
    let draw ← draw.ensure capture index
    match draw.fields[index]? with
    | none => return (draw, none)
    | some ['-', '-'] =>
      let draw ← draw.ensure capture (index + 1)
      return (draw, if index + 1 < draw.fields.length then some (index + 1, usual) else none)
    | some ('-' :: first :: letters) =>
      if (first :: letters).all (· == 'p') then operandPlace capture fuel (index + 1) true draw
      else return (draw, none)
    | some _ => return (draw, some (index, usual))

structure Plan where
  fields : List Octets
  target : Target
  /-- Whether the first of the builtin commands named is special. -/
  special : Bool
  usual : Bool

def plan (capture : Capture) : Nat → Nat → Bool → Bool → Option Bool → Draw → Run Plan
  | 0, _, _, _, _, draw => return ⟨draw.fields, .program, false, false⟩
  | fuel + 1, index, functions, usual, special?, draw => do
    let name := (draw.fields[index]?).getD []
    let target := (← get).target functions name
    let finish (draw : Draw) (special? : Option Bool) (assigns : Bool) : Run Plan := do
      let rest ← draw.rest.mapM fun word => do
        match (if assigns then assigned? word else none) with
        | some (name, value) => return [← expandAssignment capture name value]
        | none => expand capture word
      return ⟨draw.fields.drop index ++ rest.flatten, target, special? == some true, usual⟩
    match target with
    | .builtin builtin =>
      let special? := some (special?.getD builtin.special)
      if name != "command".toList then finish draw special? builtin.assigns
      else
        match ← operandPlace capture (draw.fields.length + draw.rest.length + 1) (index + 1) usual
            draw with
        | (draw, some (place, usual)) => plan capture fuel place false usual special? draw
        | (draw, none) => finish draw special? false
    | _ => finish draw special? false

def callFunction (evaluate : Evaluator) (setting : Setting) (body : Command)
    (arguments : List Octets) : Run Unit := do
  let outer ← get
  set { outer with
    arguments := arguments
    loops := 0
    functionDepth := outer.functionDepth + 1 }
  let restore : Run Unit := modify fun state => { state with
    arguments := outer.arguments
    loops := outer.loops
    functionDepth := outer.functionDepth }
  thenAlways (tryCatch (evaluate ⟨setting.tested, false⟩ body) fun stop => do
    if stop != .returned then throw stop) restore

/-- Carries out a builtin command. Only the mistake of a special one stops the shell. -/
def callBuiltin (evaluate : Evaluator) (setting : Setting) (plan : Plan) (builtin : Builtin) :
    Run Unit := do
  let outer ← get
  let name := plan.fields.headD []
  modify fun state => { state with builtin := some name }
  let restore : Run Unit := modify fun state => { state with builtin := outer.builtin }
  tryCatch (thenAlways (do
    setStatus (← builtin.work ⟨evaluate, setting.tested, name, plan.fields.drop 1⟩)) restore)
    fun stop => do
      if stop != .failed || plan.special then throw stop
      modify (State.revealed outer.hidden.length)

def State.hasTraps (state : State) : Bool := state.traps.any fun trap => !trap.2.isEmpty

/-- Carries out a program; at the end of a script it takes the place of the shell. -/
def callProgram (setting : Setting) (plan : Plan) : Run Unit := do
  let state ← get
  let name := plan.fields.headD []
  let directories := if plan.usual then usualDirectories else state.directories
  match ← findProgram directories name, name.contains '/' with
  | .error fault, false =>
    warn (notRunnable name fault).1
    setStatus 127
  | _, _ =>
    if setting.last && !state.hasTraps then
      throw (.replaced (← runProgram directories plan.fields))
    else conclude (← runProgramBeside directories plan.fields)

def assignAll (evaluate : Evaluator) (passing exported : Bool)
    (assignments : List (Octets × Word)) : Run (List Octets) := do
  assignments.mapM fun (name, word) => do
    let value ← expandText (capture evaluate) true word
    if passing then hideVariable name
    assign name (some value) (passing || exported)
    return name ++ '=' :: value

def trace (words : List Octets) : Run Unit := do
  let state ← get
  if state.has 'x' then act (complain (state.valueOf "PS4" ++ (words.intersperse [' ']).flatten))

def runSimple (evaluate : Evaluator) (setting : Setting) (assignments : List (Octets × Word))
    (words : List Word) (redirections : List Redirection) : Run Unit := do
  let capture := capture evaluate
  modify fun state => { state with outputStatus := 0 }
  let draw ← Draw.more capture ⟨[], []⟩ words
  if draw.fields.isEmpty then
    redirected evaluate redirections do
      let shown ← assignAll evaluate false false assignments
      trace shown
      setStatus (← get).outputStatus
  else
    let plan ← plan capture (words.length + 1) 0 true false none draw
    let isExec := plan.fields.headD [] == "exec".toList
    let run : Run Unit := do
      let connections ← redirections.mapM (connection evaluate)
      let (isOpen, restore) ← establishAll evaluate connections
      if !isOpen then
        restore
        setStatus 2
        if plan.special then throw .failed
      else
        thenAlways (do
          let shown ← assignAll evaluate (!plan.special) (isExec && plan.fields.length > 1) assignments
          trace (shown ++ plan.fields)
          match plan.target with
          | .function body => callFunction evaluate setting body (plan.fields.drop 1)
          | .builtin builtin => callBuiltin evaluate setting plan builtin
          | .program => callProgram setting plan) (if isExec then pure () else restore)
    if plan.special then run else withHiding run

inductive Round
  | through
  | again
  | out
  deriving DecidableEq

def inRound (run : Run Unit) : Run Round :=
  tryCatch (do
    run
    return .through) fun stop => do
      match stop with
      | .loops count goOn =>
        if count > 1 then throw (.loops (count - 1) goOn)
        else return if goOn then .again else .out
      | stop => throw stop

def rounds (evaluate : Evaluator) (setting : Setting) (wanted : Bool) (condition body : Command) :
    Nat → Nat → Run Unit
  | 0, _ => throw .failed
  | fuel + 1, status => do
    match ← inRound (evaluate ⟨true, false⟩ condition) with
    | .out => setStatus status
    | .again => rounds evaluate setting wanted condition body fuel status
    | .through =>
      if ((← get).status == 0) != wanted then setStatus status
      else
        match ← inRound (evaluate ⟨setting.tested, false⟩ body) with
        | .out => return ()
        | _ => rounds evaluate setting wanted condition body fuel (← get).status

def roundsFor (evaluate : Evaluator) (setting : Setting) (name : Octets) (body : Command) :
    List Octets → Run Unit
  | [] => return ()
  | value :: rest => do
    setVariable name value
    match ← inRound (evaluate ⟨setting.tested, false⟩ body) with
    | .out => return ()
    | _ => roundsFor evaluate setting name body rest

def inLoop (run : Run Unit) : Run Unit := do
  let outer ← get
  set { outer with loops := outer.loops + 1 }
  thenAlways run (modify fun state => { state with loops := outer.loops })

def roundLimit : Nat := 1000000000

def choose (evaluate : Evaluator) (setting : Setting) (text : Octets) :
    List (List Word × Option Command) → Run Unit
  | [] => setStatus 0
  | (patterns, body) :: rest => do
    let fits ← patterns.anyM fun word => do
      return Pattern.accepts (← expandPattern (capture evaluate) word) text
    if !fits then choose evaluate setting text rest
    else
      match body with
      | some body => evaluate setting body
      | none => setStatus 0

def runPipe (evaluate : Evaluator) (setting : Setting) (input : Option Nat) :
    List Command → Run Unit
  | [] => return ()
  | command :: rest => do
    let (number, process) := (← get).process.addChannel (.pipe #[] 0)
    let streams := process.streams
    let process := match input with
      | some number => process.connect 0 number
      | none => process
    let process := if rest.isEmpty then process else process.connect 1 number
    modify fun state => { state with process := process }
    let ending ← asSubshell evaluate (evaluate ⟨setting.tested, true⟩ command)
    modify fun state => { state with process := { state.process with streams := streams } }
    match input with
    | some number => modify fun state => { state with process := state.process.setChannel number .sink }
    | none => pure ()
    mourn ending
    if rest.isEmpty then
      heed
      setStatus ending.status
    else runPipe evaluate setting (some number) rest

/-- Carries out a command by a way to carry out the commands inside it. Whether its failure may end the
shell is returned. -/
def step (evaluate : Evaluator) (setting : Setting) : Command → Run Bool
  | .simple line assignments words redirections => do
    atLine line
    runSimple evaluate setting assignments words redirections
    return true
  | .redirected line command redirections => do
    atLine line
    redirected evaluate redirections (evaluate ⟨setting.tested, false⟩ command)
    return false
  | .isolated line command redirections => do
    atLine line
    let connections ← redirections.mapM (connection evaluate)
    let run (setting : Setting) : Run Unit := do
      let (isOpen, _) ← establishAll evaluate connections
      if isOpen then evaluate setting command else throw .ended
    if setting.last && !(← get).hasTraps then
      modify fun state => state.within state.process.id
      run setting
    else conclude (← asSubshell evaluate (run ⟨setting.tested, true⟩))
    return true
  | .background command => do
    runBeside evaluate command
    return true
  | .piped commands => do
    runPipe evaluate setting none commands
    return true
  | .negated command => do
    evaluate ⟨true, false⟩ command
    setStatus (if (← get).status == 0 then 1 else 0)
    return false
  | .both first second => do
    evaluate ⟨true, false⟩ first
    if (← get).status == 0 then evaluate setting second
    return false
  | .either first second => do
    evaluate ⟨true, false⟩ first
    if (← get).status != 0 then evaluate setting second
    return false
  | .sequence commands => do
    for command in commands.dropLast do evaluate ⟨setting.tested, false⟩ command
    match commands.getLast? with
    | some command => evaluate setting command
    | none => pure ()
    return false
  | .choose condition yes no => do
    evaluate ⟨true, false⟩ condition
    if (← get).status == 0 then evaluate setting yes
    else
      match no with
      | some no => evaluate setting no
      | none => setStatus 0
    return false
  | .loop wanted condition body => do
    inLoop (rounds evaluate setting wanted condition body roundLimit 0)
    return false
  | .each line name words body => do
    atLine line
    let values ← words.mapM (expand (capture evaluate))
    setStatus 0
    inLoop (roundsFor evaluate setting name body values.flatten)
    return false
  | .cases line word branches => do
    atLine line
    let text ← expandText (capture evaluate) false word
    choose evaluate setting text branches
    return false
  | .define name body => do
    modify fun state =>
      { state with functions := (name, body) :: state.functions.filter (·.1 != name) }
    setStatus 0
    return false

def evaluate : Nat → Evaluator
  | 0, _, _ => fail "Maximum function recursion depth reached".toList
  | depth + 1, setting, command => do
    let inner : Evaluator := evaluate depth
    if !(← get).has 'n' then
      runTraps inner
      let counts ← step inner setting command
      runTraps inner
      let state ← get
      if counts && !setting.tested && state.has 'e' && state.status != 0 then throw .ended
    if setting.last then throw .ended

end LocaleFamilies.Shell
