import LocaleFamilies.FileTree.Walk
import LocaleFamilies.Glob
import LocaleFamilies.Path.Relative

/-! Scanning directories for documents. The directories are walked one after another, and a file is
found if it has one of the wanted extensions and no ignore entry covers it. An ignore entry with
wildcards is a pattern for the text of the path; any other is a path below the root, and covers
everything in it. -/
namespace LocaleFamilies

/-- What to scan: directories and ignore entries as they are configured, and the extensions. -/
structure Selection where
  directories : List Path
  extensions : List String
  ignores : List String
  deriving DecidableEq

inductive Ignore
  | inside (path : Path)
  | like (pattern : List Glob.Token)
  deriving DecidableEq

namespace Ignore

def read (root : Path) (entry : String) : Except Glob.Error Ignore :=
  if Glob.hasWildcard entry then .like <$> Glob.read entry
  else .ok (.inside (root.join (.ofText entry)))

def covers : Ignore → Path → Bool
  | inside base, path => path.startsWith base
  | like pattern, path => Glob.accepts pattern path.display.toList

end Ignore

structure Scan where
  /-- In order of discovery. -/
  files : List Path
  missing : List Path
  unreadable : List (Path × Fault)
  /-- Ignore entries that are no patterns. -/
  discarded : List (String × Glob.Error)
  deriving DecidableEq

namespace Scan

def hasExtension (extensions : List String) (path : Path) : Bool :=
  match path.extension?.bind Bytes.text? with
  | some extension => extensions.contains extension
  | none => false

def file? (extensions : List String) (ignores : List Ignore) : FileTree.Visit → Option Path
  | .found path (.file _ _) =>
    if hasExtension extensions path && !ignores.any fun ignore => ignore.covers path then some path
    else none
  | _ => none

def fault? : FileTree.Visit → Option (Path × Fault)
  | .unreadable path fault => some (path, fault)
  | _ => none

/-- The visits of a directory; none if it does not exist. -/
def visits (tree : FileTree) (directory : Location) (start : Path) : List FileTree.Visit :=
  if tree.hasEntry directory start then tree.walk directory start else []

def of (tree : FileTree) (directory : Location) (root : Path) (selection : Selection) : Scan :=
  let starts := selection.directories.map root.join
  let ignores := selection.ignores.filterMap fun entry => (Ignore.read root entry).toOption
  { files := starts.flatMap fun start =>
      (visits tree directory start).filterMap (file? selection.extensions ignores)
    missing := starts.filter fun start => !tree.hasEntry directory start
    unreadable := starts.flatMap fun start => (visits tree directory start).filterMap fault?
    discarded := selection.ignores.filterMap fun entry =>
      match Ignore.read root entry with
      | .ok _ => none
      | .error cause => some (entry, cause) }

def warnings (scan : Scan) : List String :=
  (scan.discarded.map fun (entry, cause) =>
    "Invalid ignore pattern '" ++ entry ++ "': " ++ cause.message) ++
  (scan.unreadable.map fun (path, fault) =>
    "Cannot access path: IO error for operation on " ++ path.display ++ ": " ++ fault.message)

end Scan

end LocaleFamilies
