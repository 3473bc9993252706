import LocaleFamilies.Shell.Builtin.Basic
import LocaleFamilies.Shell.Condition
import LocaleFamilies.Shell.Printing

/-! The builtin commands that write, that judge conditions, and that change the directory. -/
namespace LocaleFamilies.Shell

def say (name : Octets) (text : Octets) : Run Nat := do
  if ← act (write 1 text) then return 0
  else
    let state ← get
    act (complain ({ state with builtin := none }.complaint (name ++ ": I/O error".toList)))
    return 1

def runEcho : Work := fun call => do
  let (plain, words) := match call.arguments with
    | ['-', 'n'] :: rest => (true, rest)
    | words => (false, words)
  let text := (words.intersperse [' ']).flatten
  let work := Printing.unescaped text
  let line := if plain || work.stopped then work.output else '\n' :: work.output
  say call.name line.reverse

def runPrintf : Work := fun call => do
  let (_, words) ← call.options ""
  match words with
  | [] => fail "usage: printf format [arg ...]".toList
  | format :: arguments =>
    let work := Printing.run Printing.builtin format arguments
    for problem in work.problems do warn problem
    let status ← say call.name work.output.reverse
    if work.refused then
      setStatus 2
      throw .failed
    return if work.failed then max status 1 else status

def runTest : Work := fun call => do
  let words ← (do
    if call.name != ['['] then return call.arguments
    else if call.arguments.getLast? == some [']'] then return call.arguments.dropLast
    else fail "missing ]".toList : Run (List Octets))
  match Condition.holds (Condition.facts (← get).process) words with
  | .ok holds => return if holds then 0 else 1
  | .error problem => fail problem.message

/-- The path that a path names from a directory, where a step up undoes the step before. -/
def logicalPath (place path : Octets) : Octets :=
  let parts (path : Octets) : List Octets := (pieces (· == '/') path).filter (!·.isEmpty)
  let start := if path.head? == some '/' then [] else parts place
  let names := (parts path).foldl (fun names part =>
    if part == ['.'] then names
    else if part == ['.', '.'] then names.dropLast
    else names ++ [part]) start
  if names.isEmpty then ['/'] else names.flatMap ('/' :: ·)

def physicalPath (location : Location) : Octets :=
  Octets.ofBytes (FileTree.pathTo location).spelling

def changeDirectory (physical : Bool) (path : Octets) : Run Bool := do
  let state ← get
  let path := if path.isEmpty then ['.'] else path
  let logical := logicalPath state.place path
  match state.process.tree.entryAt state.process.directory true
      (Octets.path (if physical then path else logical)) with
  | .ok (location, .directory) =>
    set { state with
      process := { state.process with directory := location }
      place := if physical then physicalPath location else logical }
    assign "OLDPWD".toList (some state.place) true
    assign "PWD".toList (some (← get).place) true
    return true
  | _ => return false

def runCd : Work := fun call => do
  let (options, words) ← call.options "LP"
  let physical := options.getLast?.map (·.1) == some 'P'
  let state ← get
  let (target, shown) := match words with
    | [] => (state.valueOf "HOME", false)
    | ['-'] :: _ => (state.valueOf "OLDPWD", true)
    | word :: _ => (word, false)
  let isPlain := target.head? == some '/' || target == ['.'] || target == ['.', '.'] ||
    "./".toList.isPrefixOf target || "../".toList.isPrefixOf target
  let prefixes := match (if isPlain then none else state.value? "CDPATH".toList) with
    | some places => pieces (· == ':') places
    | none => []
  let found? := prefixes.find? fun place =>
    state.process.tree.hasDirectory state.process.directory
      (Octets.path (if place.isEmpty then target else place ++ '/' :: target))
  let (path, shown) := match found? with
    | some [] => (target, shown)
    | some place => (place ++ '/' :: target, true)
    | none => (target, shown)
  if ← changeDirectory physical path then
    if shown then say call.name ((← get).place ++ ['\n']) else return 0
  else fail ("can't cd to ".toList ++ (if target.isEmpty then ['.'] else target))

def runPwd : Work := fun call => do
  let (options, _) ← call.options "LP"
  let state ← get
  let isPhysical := options.getLast?.map (·.1) == some 'P'
  say call.name ((if isPhysical then physicalPath state.process.directory else state.place) ++ ['\n'])

end LocaleFamilies.Shell
