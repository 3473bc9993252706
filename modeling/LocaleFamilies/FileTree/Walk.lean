import LocaleFamilies.FileTree.Lookup
import LocaleFamilies.Path.Join

/-! Walking through a directory: every entry below it, each directory before what it holds and the
entries of one directory in the order of their names. Links are shown but not followed, save for the
start of the walk. A directory whose path has grown too long is shown and cannot be opened. -/
namespace LocaleFamilies.FileTree

inductive Visit
  | found (path : Path) (entry : Entry)
  | unreadable (path : Path) (fault : Fault)
  deriving DecidableEq

def descend (start : Path) (names : List Bytes) : Path :=
  names.foldl (fun path name => path.join ⟨name⟩) start

def isTooLong (path : Path) : Bool := path.spelling.length ≥ pathLimit

/-- The visit of an entry, and of the fault that opening it gives. -/
def visit (path : Path) (entry : Entry) : List Visit :=
  if entry == .directory && isTooLong path then
    [.found path entry, .unreadable path .nameTooLong]
  else [.found path entry]

def visitsBelow (tree : FileTree) (directory : Location) (start : Path) : List Visit :=
  tree.entries.entries.flatMap fun (location, entry) =>
    if directory.isPrefixOf location && directory.length < location.length then
      let names := location.drop directory.length
      if isTooLong (descend start names.dropLast) then [] else visit (descend start names) entry
    else []

def walk (tree : FileTree) (directory : Location) (start : Path) : List Visit :=
  match tree.entryAt directory false start with
  | .error fault => [.unreadable start fault]
  | .ok (location, .directory) => .found start .directory :: tree.visitsBelow location start
  | .ok (_, .link target) =>
    .found start (.link target) ::
      match tree.entryAt directory true start with
      | .ok (location, .directory) => tree.visitsBelow location start
      | .ok _ => []
      | .error fault => [.unreadable start fault]
  | .ok (_, entry) => [.found start entry]

end LocaleFamilies.FileTree
