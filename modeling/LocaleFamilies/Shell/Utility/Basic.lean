import LocaleFamilies.Shell.Printing
import LocaleFamilies.Shell.Process

/-! What the programs of the machine have in common: options, the names of files in messages, and the
reading of input. -/
namespace LocaleFamilies.Shell

def quotedName (name : Octets) : Octets :=
  '\'' :: (name.flatMap fun c => if c == '\'' then "'\\''".toList else [c]) ++ ['\'']

def leadName (name : Octets) : Octets :=
  let isPlain (c : Char) : Bool := c.isAlphanum || "%+,-./]_@".toList.contains c
  if !name.isEmpty && name.all isPlain then name else quotedName name

structure Invocation where
  starter : Starter
  name : Octets
  options : List (Char × Octets)
  operands : List Octets

namespace Invocation

def has (invocation : Invocation) (letter : Char) : Bool :=
  invocation.options.any (·.1 == letter)

def hasAny (invocation : Invocation) (letters : String) : Bool :=
  invocation.options.any fun option => letters.toList.contains option.1

def text? (invocation : Invocation) (letter : Char) : Option Octets :=
  (invocation.options.reverse.find? (·.1 == letter)).map (·.2)

def lastOf (invocation : Invocation) (letters : String) : Option Char :=
  (invocation.options.reverse.find? fun option => letters.toList.contains option.1).map (·.1)

def complain (invocation : Invocation) (message : Octets) : Task Unit :=
  Shell.complain (invocation.name ++ ": ".toList ++ message)

def refuse (invocation : Invocation) (message : Octets) (status : Nat) : Task Nat := do
  invocation.complain message
  Shell.complain ("Try '".toList ++ invocation.name ++ " --help' for more information.".toList)
  return status

def blame (invocation : Invocation) (lead : String) (name : Octets) (fault : Fault) : Task Unit :=
  invocation.complain (lead.toList ++ name ++ ": ".toList ++ (faultText fault).toList)

/-- The files that a call is about; the input if it names none. -/
def inputs (invocation : Invocation) : List Octets :=
  if invocation.operands.isEmpty then [['-']] else invocation.operands

end Invocation

structure Given where
  options : List (Char × Octets)
  operands : List Octets

/-- Reads the words of a call, where a colon follows each letter that takes a text; within a cluster of
letters, what is left of it comes first. -/
def readOptions (letters : Octets) : Nat → Given → Octets → List Octets → Except Octets Given
  | 0, found, _, _ => .ok found
  | _, found, [], [] => .ok found
  | fuel + 1, found, [], word :: rest =>
    match word with
    | ['-', '-'] => .ok { found with operands := rest.reverse ++ found.operands }
    | '-' :: '-' :: name => .error ("unrecognized option '--".toList ++ name ++ ['\''])
    | '-' :: c :: cluster => readOptions letters fuel found (c :: cluster) rest
    | word => readOptions letters fuel { found with operands := word :: found.operands } [] rest
  | fuel + 1, found, c :: cluster, words =>
    let give (value : Octets) : Given := { found with options := (c, value) :: found.options }
    match if c == ':' then [] else letters.dropWhile (· != c), cluster, words with
    | [], _, _ => .error ("invalid option -- '".toList ++ [c, '\''])
    | _ :: ':' :: _, [], [] => .error ("option requires an argument -- '".toList ++ [c, '\''])
    | _ :: ':' :: _, [], value :: words => readOptions letters fuel (give value) [] words
    | _ :: ':' :: _, cluster, words => readOptions letters fuel (give cluster) [] words
    | _, cluster, words => readOptions letters fuel (give []) cluster words

/-- The program with these options that does some work, of which the status comes; another status says
that the options are wrong. -/
def program (letters : String) (failure : Nat) (work : Invocation → Task Nat) : Program :=
  fun starter name words => do
    let bound := words.flatten.length + words.length + 1
    match readOptions letters.toList bound ⟨[], []⟩ [] words with
    | .ok found =>
      return .exited (← work ⟨starter, name, found.options.reverse, found.operands.reverse⟩)
    | .error message => return .exited (← Invocation.refuse ⟨starter, name, [], []⟩ message failure)

def readFile (name : Octets) : Task (Read Octets) := do
  if name == ['-'] then readAll 0
  else
    match ← openFile .input name with
    | .error fault => return .error fault
    | .ok number =>
      match (← get).machine.channels[number]? with
      | some .directory => return .error .isDirectory
      | _ => return .ok (← takeFrom number List.length)

/-- Does something with the content of each file of a call; the status is one if a file cannot be read. -/
def Invocation.eachInput (invocation : Invocation) (work : Octets → Octets → Task Unit) : Task Nat :=
  invocation.inputs.foldlM (fun status name => do
    match ← readFile name with
    | .ok text =>
      work name text
      return status
    | .error fault =>
      invocation.blame "" (leadName name) fault
      return 1) 0

def channelAt (stream : Nat) : Task (Option Channel) := do
  let process ← get
  return (process.channel? stream).bind (process.machine.channels[·]?)

/-- Whether a file is the one that the output goes to, and further on in it. -/
def isOutput (name : Octets) : Task Bool := do
  let process ← get
  let source : Option (Location × Nat) ← (do
    if name == ['-'] then
      match ← channelAt 0 with
      | some (.file location place _) => return some (location, place)
      | _ => return none
    else
      match process.tree.entryAt process.directory true name.path with
      | .ok (location, .file _ _) => return some (location, 0)
      | _ => return none : Task (Option (Location × Nat)))
  match source, ← channelAt 1 with
  | some (location, place), some (.file target written atEnd) =>
    return location == target &&
      place < (if atEnd then (contentAt process.tree target).length else written)
  | _, _ => return false

def baseName (path : Octets) : Octets :=
  let trimmed := (path.reverse.dropWhile (· == '/')).reverse
  if trimmed.isEmpty then (if path.isEmpty then [] else ['/'])
  else (trimmed.reverse.takeWhile (· != '/')).reverse

def directoryName (path : Octets) : Octets :=
  let trimmed := path.reverse.dropWhile (· == '/')
  if trimmed.isEmpty then (if path.isEmpty then ['.'] else ['/'])
  else
    let above := trimmed.dropWhile (· != '/')
    if above.isEmpty then ['.']
    else
      let above := above.dropWhile (· == '/')
      if above.isEmpty then ['/'] else above.reverse

def below (directory name : Octets) : Octets :=
  if directory.getLast? == some '/' then directory ++ name else directory ++ '/' :: name

end LocaleFamilies.Shell
