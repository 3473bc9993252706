import LocaleFamilies.Shell.Host
import LocaleFamilies.Translation.Program

/-! Starting programs. A file that begins with a mark and the path of a program is carried out by that
program. -/
namespace LocaleFamilies.Shell

/-- The words that a script begins with: the program that carries it out and at most one argument. -/
def scriptMark? (content : Octets) : Option (List Octets) :=
  match content with
  | '#' :: '!' :: rest =>
    let blank (c : Char) : Bool := c == ' ' || c == '\t'
    let line := (rest.takeWhile (· != '\n')).dropWhile blank
    let line := (line.reverse.dropWhile blank).reverse
    let program := line.takeWhile (!blank ·)
    let argument := (line.drop program.length).dropWhile blank
    if program.isEmpty then none
    else some (program :: if argument.isEmpty then [] else [argument])
  | _ => none

/-- Carries out the program in a file; programs may start others so deep. -/
def start : Nat → Starter
  | 0, _, _ => return .error .tooManyLinks
  | depth + 1, file, words => do
    let process ← get
    match process.tree.entryAt process.directory true file.path with
    | .error fault => return .error fault
    | .ok (_, .program name) =>
      match programs.find? (·.1 == name) with
      | some (_, program) => return .ok (← program (start depth) (words.headD []) (words.drop 1))
      | none => return .error .notFound
    | .ok (_, .file content true) =>
      match scriptMark? (Octets.ofBytes content) with
      | some (interpreter :: arguments) =>
        start depth interpreter (interpreter :: arguments ++ file :: words.drop 1)
      | _ => return .error .notProgram
    | .ok _ => return .error .permissionDenied

def startLimit : Nat := 200

def firstEnvironment : List (Octets × Octets) :=
  [("PATH".toList, "/usr/local/sbin:/usr/local/bin:/usr/sbin:/usr/bin:/sbin:/bin".toList),
    ("HOME".toList, "/root".toList)]

def pipeContent (machine : Machine) (number : Nat) : Bytes :=
  match machine.channels[number]? with
  | some (.pipe content taken) => Octets.toBytes (content.extract taken content.size).toList
  | _ => []

def launch : Launcher := fun directory command input workspace =>
  let words := (command.program :: command.arguments).map Octets.ofText
  if directory.spelling.contains 0 || words.any (·.contains (Char.ofNat 0)) then
    (workspace, .error .zeroByteInCommand)
  else
    match workspace.tree.entryAt workspace.directory true directory with
    | .ok (location, .directory) =>
      let machine : Machine :=
        { tree := workspace.tree
          channels := #[.pipe (Octets.ofBytes input).toArray 0, .pipe #[] 0, .pipe #[] 0]
          nextId := 1001
          signals := []
          alive := [1000, 1] }
      let process : Process :=
        { machine := machine
          directory := location
          streams := [(0, 0), (1, 1), (2, 2)]
          environment := firstEnvironment
          ignored := []
          id := 1000
          parent := 1
          mask := 0o022 }
      let (outcome, after) := (startNamed (start startLimit) words).run process
      match outcome with
      | .error fault => (workspace, .error fault)
      | .ok ending =>
        let changed := { workspace with tree := after.machine.tree }
        (changed.complain (pipeContent after.machine 2),
          .ok (pipeContent after.machine 1, ending))
    | .ok _ => (workspace, .error .notDirectory)
    | .error fault => (workspace, .error fault)

end LocaleFamilies.Shell
