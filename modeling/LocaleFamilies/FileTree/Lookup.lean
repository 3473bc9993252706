import LocaleFamilies.FileTree.Basic
import LocaleFamilies.FileTree.Fault

/-! Finding the place that a path names in a file tree. The names of the path are taken one by one
from a starting directory; links on the way are followed, up to a number of them, and a link in last
position is followed if the access asks for it or the path goes on with a slash. -/
namespace LocaleFamilies.FileTree

/-- The part of a path between two slashes. -/
inductive Step
  /-- Nothing: two slashes in a row, or one at the end. -/
  | slash
  | here
  | up
  | name (bytes : Bytes)
  deriving DecidableEq

def Step.of (part : Bytes) : Step :=
  if part.isEmpty then .slash
  else if part = [Bytes.dot] then .here
  else if part = [Bytes.dot, Bytes.dot] then .up
  else .name part

def steps (path : Path) : List Step := (Separated.parts Bytes.slash path.spelling).map .of

inductive Place
  | occupied (location : Location) (entry : Entry)
  /-- A name that is free, in a directory that exists; whether it was spelled with a slash. -/
  | vacant (location : Location) (slashed : Bool)
  deriving DecidableEq

def pathLimit : Nat := 4096

def linkLimit : Nat := 40

/-- Takes steps from a directory; what to do at a link that must be followed is a parameter. -/
def advance (tree : FileTree) (follow : Bool)
    (atLink : Location → Path → List Step → Except Fault Place) :
    Location → List Step → Except Fault Place
  | directory, [] => .ok (.occupied directory .directory)
  | directory, .slash :: rest => advance tree follow atLink directory rest
  | directory, .here :: rest => advance tree follow atLink directory rest
  | directory, .up :: rest => advance tree follow atLink directory.dropLast rest
  | directory, .name name :: rest =>
    let location := directory ++ [name]
    if name.length > nameLimit then .error .nameTooLong
    else
      match tree.get? location with
      | none =>
        if tree.get? directory == some .directory && rest.all (· == .slash) then
          .ok (.vacant location !rest.isEmpty)
        else .error .notFound
      | some .directory => advance tree follow atLink location rest
      | some (.link target) =>
        if rest.isEmpty && !follow then .ok (.occupied location (.link target))
        else atLink directory target rest
      | some entry =>
        if rest.isEmpty then .ok (.occupied location entry) else .error .notDirectory

def origin (directory : Location) (path : Path) : Location :=
  if path.isAbsolute then [] else directory

/-- Takes steps from a directory, through at most so many links. -/
def travel (tree : FileTree) (follow : Bool) : Nat → Location → List Step → Except Fault Place
  | 0 => tree.advance follow fun _ _ _ => .error .tooManyLinks
  | links + 1 => tree.advance follow fun directory target rest =>
      if target.spelling.isEmpty then .error .notFound
      else travel tree follow links (origin directory target) (steps target ++ rest)

/-- The place that a path of any length names, seen from a directory. -/
def resolve (tree : FileTree) (directory : Location) (follow : Bool) (path : Path) :
    Except Fault Place :=
  if path.spelling.contains 0 then .error .zeroByte
  else if path.spelling.isEmpty then .error .notFound
  else tree.travel follow linkLimit (origin directory path) (steps path)

def lookup (tree : FileTree) (directory : Location) (follow : Bool) (path : Path) :
    Except Fault Place :=
  if path.spelling.length ≥ pathLimit && !path.spelling.contains 0 then .error .nameTooLong
  else tree.resolve directory follow path

def entryAt (tree : FileTree) (directory : Location) (follow : Bool) (path : Path) :
    Except Fault (Location × Entry) := do
  match ← tree.lookup directory follow path with
  | .occupied location entry => return (location, entry)
  | .vacant _ _ => throw .notFound

def hasEntry (tree : FileTree) (directory : Location) (path : Path) : Bool :=
  (tree.entryAt directory true path).isOk

def hasDirectory (tree : FileTree) (directory : Location) (path : Path) : Bool :=
  match tree.entryAt directory true path with
  | .ok (_, .directory) => true
  | _ => false

def pathTo (location : Location) : Path := .ofComponents (.root :: location.map .name)

/-- The absolute path, free of links, of the entry that a path names. The path is worked off name by
name and may be of any length, but a directory to start from must still be there. -/
def canonical (tree : FileTree) (directory : Location) (path : Path) : Except Fault Path := do
  if !path.isAbsolute && tree.get? directory != some .directory then throw .notFound
  match ← tree.resolve directory true path with
  | .occupied location _ => return pathTo location
  | .vacant _ _ => throw .notFound

end LocaleFamilies.FileTree
