import LocaleFamilies.Ending
import LocaleFamilies.FileTree.Access
import LocaleFamilies.Shell.Syntax

/-! Processes. A process has numbered streams, which are connected to channels; channels and files
belong to the machine that all processes share. A program is carried out from its beginning to its
end before another one goes on, so what is written to a pipe waits there until it is read. -/
namespace LocaleFamilies.Shell

inductive Channel
  /-- A pipe: all that has been written to it, and how much of that has been read. -/
  | pipe (content : Array Char) (taken : Nat)
  /-- An open file, with the place of the next access; all writing may be at the end. -/
  | file (location : Location) (place : Nat) (atEnd : Bool)
  | directory
  | sink

structure Machine where
  tree : FileTree
  channels : Array Channel
  nextId : Nat
  signals : List (Nat × Nat)
  alive : List Nat

structure Process where
  machine : Machine
  directory : Location
  streams : List (Nat × Nat)
  environment : List (Octets × Octets)
  ignored : List Nat
  id : Nat
  parent : Nat
  mask : Nat

abbrev Task := StateM Process

def faultText (fault : Fault) : String := (fault.message.splitOn " (os error").headD ""

namespace Process

def channel? (process : Process) (stream : Nat) : Option Nat :=
  (process.streams.find? (·.1 == stream)).map (·.2)

def connect (process : Process) (stream channel : Nat) : Process :=
  { process with streams := (stream, channel) :: process.streams.filter (·.1 != stream) }

def close (process : Process) (stream : Nat) : Process :=
  { process with streams := process.streams.filter (·.1 != stream) }

def withTree (process : Process) (tree : FileTree) : Process :=
  { process with machine := { process.machine with tree := tree } }

def tree (process : Process) : FileTree := process.machine.tree

def addChannel (process : Process) (channel : Channel) : Nat × Process :=
  (process.machine.channels.size,
    { process with machine := { process.machine with
      channels := process.machine.channels.push channel } })

def setChannel (process : Process) (number : Nat) (channel : Channel) : Process :=
  { process with machine := { process.machine with
    channels := process.machine.channels.set! number channel } }

end Process

/-- A text put into a content at some place; a gap before it is filled with zeros. -/
def overwritten (content : Bytes) (place : Nat) (text : Bytes) : Bytes :=
  content.take place ++ List.replicate (place - content.length) 0 ++ text ++
    content.drop (place + text.length)

def contentAt (tree : FileTree) (location : Location) : Bytes :=
  match (tree.get? location).map FileTree.contentOf with
  | some (.ok content) => content
  | _ => []

def replaceContent (tree : FileTree) (location : Location) (content : Bytes) : FileTree :=
  match tree.get? location with
  | some (.file _ runnable) => tree.put location (.file content runnable)
  | _ => tree

/-- Adds a text to what waits in a pipe. The pipe is taken off the machine meanwhile, so that its
content need not be copied. -/
def fillPipe (number : Nat) (text : Octets) : Task Unit := do
  let process ← get
  match process.machine.channels[number]? with
  | some (.pipe content taken) =>
    set (process.setChannel number .sink)
    modify fun process =>
      process.setChannel number (.pipe (text.foldl Array.push content) taken)
  | _ => pure ()

def writeTo (number : Nat) (text : Octets) : Task Unit := do
  let process ← get
  match process.machine.channels[number]? with
  | some (.pipe _ _) => fillPipe number text
  | some (.file location place atEnd) =>
    let content := contentAt process.tree location
    let place := if atEnd then content.length else place
    let bytes := text.toBytes
    set ((process.withTree (replaceContent process.tree location
      (overwritten content place bytes))).setChannel number
        (.file location (place + bytes.length) atEnd))
  | _ => pure ()

def write (stream : Nat) (text : Octets) : Task Bool := do
  match (← get).channel? stream with
  | some number =>
    if !text.isEmpty then writeTo number text
    return true
  | none => return text.isEmpty

def print (text : Octets) : Task Unit := do let _ ← write 1 text

def complain (line : Octets) : Task Unit := do let _ ← write 2 (line ++ ['\n'])

/-- Reads from a channel as much as a test of what there is allows. -/
def takeFrom (number : Nat) (amount : Octets → Nat) : Task Octets := do
  let process ← get
  match process.machine.channels[number]? with
  | some (.pipe content taken) =>
    let text := (content.extract taken content.size).toList
    let count := min (amount text) text.length
    let left : Channel := if taken + count ≥ content.size then .pipe #[] 0
      else .pipe content (taken + count)
    set (process.setChannel number left)
    return text.take count
  | some (.file location place atEnd) =>
    let text := Octets.ofBytes ((contentAt process.tree location).drop place)
    let count := min (amount text) text.length
    set (process.setChannel number (.file location (place + count) atEnd))
    return text.take count
  | _ => return []

abbrev Read := Except Fault

def readSome (stream : Nat) (amount : Octets → Nat) : Task (Read Octets) := do
  let process ← get
  match process.channel? stream with
  | none => return .error .badStream
  | some number =>
    match process.machine.channels[number]? with
    | some .directory => return .error .isDirectory
    | _ => return .ok (← takeFrom number amount)

def readAll (stream : Nat) : Task (Read Octets) := readSome stream List.length

def deviceStream? (path : Octets) : Option Nat :=
  match String.ofList path with
  | "/dev/stdin" => some 0
  | "/dev/stdout" => some 1
  | "/dev/stderr" => some 2
  | text =>
    let number := (path.reverse.takeWhile (· != '/')).reverse
    if text.startsWith "/dev/fd/" || text.startsWith "/proc/self/fd/" then Octets.nat? number
    else none

def channelOf (location : Location) (opening : Opening) : Entry → Channel
  | .directory => .directory
  | .sink => .sink
  | _ => .file location 0 (opening == .atEnd)

/-- Opens a file; the number of its channel is returned. The name of a stream opens what the stream is
connected to once more. -/
def openFile (opening : Opening) (path : Octets) : Task (Read Nat) := do
  let process ← get
  let add (process : Process) (channel : Channel) : Task (Read Nat) := do
    let (number, process) := process.addChannel channel
    set process
    return .ok number
  let overwrite (location : Location) (entry : Entry) : Task (Read Nat) := do
    let tree := if opening == .output || opening == .forced then
      replaceContent process.tree location [] else process.tree
    add (process.withTree tree) (channelOf location opening entry)
  match (deviceStream? path).map process.channel? with
  | some none => return .error .notFound
  | some (some number) =>
    match process.machine.channels[number]? with
    | some (.file location _ _) =>
      match opening, process.tree.get? location with
      | .input, some entry => add process (channelOf location opening entry)
      | _, some entry => overwrite location entry
      | _, none => return .ok number
    | _ => return .ok number
  | none =>
    match opening with
    | .input =>
      match process.tree.entryAt process.directory true path.path with
      | .ok (location, entry) => add process (channelOf location opening entry)
      | .error fault => return .error fault
    | _ =>
      match process.tree.lookup process.directory true path.path with
      | .error fault => return .error fault
      | .ok (.occupied _ .directory) => return .error .isDirectory
      | .ok (.occupied _ (.program _)) => return .error .textBusy
      | .ok (.occupied location entry) => overwrite location entry
      | .ok (.vacant location slashed) =>
        if slashed then return .error .isDirectory
        else
          add (process.withTree (process.tree.put location (.file [] false)))
            (.file location 0 (opening == .atEnd))

def takeSignals : Task (List Nat) := do
  let process ← get
  let mine := process.machine.signals.filter (·.1 == process.id)
  if mine.isEmpty then return []
  set { process with machine := { process.machine with
    signals := process.machine.signals.filter (·.1 != process.id) } }
  return mine.map (·.2)

def sendSignal (id signal : Nat) : Task Unit := modify fun process =>
  { process with machine := { process.machine with
    signals := process.machine.signals ++ [(id, signal)] } }

def newId : Task Nat := do
  let process ← get
  let id := process.machine.nextId
  set { process with machine := { process.machine with
    nextId := id + 1
    alive := id :: process.machine.alive } }
  return id

def Machine.without (machine : Machine) (id : Nat) : Machine :=
  { machine with alive := machine.alive.filter (· != id) }

/-- Carries out the program in a file, in the process itself. The words are the name that the program
is to know itself by and its arguments. -/
abbrev Starter := Octets → List Octets → Task (Except Fault Ending)

abbrev Program := Starter → Octets → List Octets → Task Ending

def Process.setting? (process : Process) (name : Octets) : Option Octets :=
  (process.environment.find? (·.1 == name)).map (·.2)

/-- The files that a name may stand for: itself if there is a slash in it, else the files of that name
in some directories, which are separated by colons. -/
def candidates (directories name : Octets) : List Octets :=
  if name.contains '/' then [name]
  else (pieces (· == ':') directories).map fun directory =>
    if directory.isEmpty then name else directory ++ '/' :: name

/-- Whether a fault says that there is nothing under a name. -/
def isAbsence : Fault → Bool
  | .notFound | .notDirectory => true
  | _ => false

def canRun : Entry → Bool
  | .program _ => true
  | .file _ runnable => runnable
  | _ => false

def firstRunnable (process : Process) : List Octets → Fault → Except Fault Octets
  | [], fault => .error fault
  | file :: rest, fault =>
    match process.tree.entryAt process.directory true file.path with
    | .ok (_, entry) =>
      if canRun entry then .ok file else firstRunnable process rest .permissionDenied
    | .error other => firstRunnable process rest (if isAbsence other then fault else other)

def usualDirectories : Octets := "/bin:/usr/bin".toList

def programFile (process : Process) (name : Octets) : Except Fault Octets :=
  let directories := (process.setting? "PATH".toList).getD usualDirectories
  if name.isEmpty then .error .notFound
  else firstRunnable process (candidates directories name) .notFound

def startNamed (starter : Starter) (words : List Octets) : Task (Except Fault Ending) := do
  match programFile (← get) (words.headD []) with
  | .ok file => starter file words
  | .error fault => return .error fault

def shellFile : Octets := "/bin/sh".toList

/-- Starts the program in a file; a file that can be run and is no program is taken for a script. -/
def startFile (starter : Starter) (file : Octets) (words : List Octets) :
    Task (Except Fault Ending) := do
  match ← starter file words with
  | .error .notProgram => starter shellFile (shellFile :: file :: words.drop 1)
  | outcome => return outcome

end LocaleFamilies.Shell
