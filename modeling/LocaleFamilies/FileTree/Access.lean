import LocaleFamilies.FileTree.Lookup
import LocaleFamilies.Path.Parts

/-! Reading and changing the files that paths name. An access that fails leaves the tree as it was,
except that making a directory with those above it keeps what it has made. -/
namespace LocaleFamilies.FileTree

def programMark : Bytes := [0x7f, 0x45, 0x4c, 0x46]

def contentOf : Entry → Except Fault Bytes
  | .file content _ => .ok content
  | .sink => .ok []
  | .program _ => .ok programMark
  | _ => .error .isDirectory

def read (tree : FileTree) (directory : Location) (path : Path) : Except Fault Bytes := do
  contentOf (← tree.entryAt directory true path).2

def readText (tree : FileTree) (directory : Location) (path : Path) : Except Fault String := do
  match Bytes.text? (← tree.read directory path) with
  | some text => return text
  | none => throw .notText

def write (tree : FileTree) (directory : Location) (path : Path) (content : Bytes) :
    Except Fault FileTree := do
  match ← tree.lookup directory true path with
  | .occupied location (.file _ runnable) => return tree.put location (.file content runnable)
  | .occupied _ .sink => return tree
  | .occupied _ (.program _) => throw .permissionDenied
  | .vacant location false => return tree.put location (.file content false)
  | _ => throw .isDirectory

/-- Makes an entry under a name that is free. Only a directory may be spelled with a slash. -/
def make (tree : FileTree) (directory : Location) (path : Path) (entry : Entry) :
    Except Fault FileTree := do
  match ← tree.lookup directory false path with
  | .occupied _ _ => throw .alreadyPresent
  | .vacant location slashed =>
    if slashed && entry != .directory then throw .notFound else return tree.put location entry

def makeDirectory (tree : FileTree) (directory : Location) (path : Path) :
    Except Fault FileTree := tree.make directory path .directory

def makeChain (tree : FileTree) (directory : Location) : List Path → FileTree × Except Fault Unit
  | [] => (tree, .ok ())
  | path :: above =>
    let settled (tree : FileTree) (fault : Fault) : FileTree × Except Fault Unit :=
      (tree, if tree.hasDirectory directory path then .ok () else .error fault)
    if path.spelling.isEmpty then (tree, .ok ())
    else
      match tree.makeDirectory directory path with
      | .ok made => (made, .ok ())
      | .error .notFound =>
        match makeChain tree directory above with
        | (tree, .error fault) => (tree, .error fault)
        | (tree, .ok ()) =>
          match tree.makeDirectory directory path with
          | .ok made => (made, .ok ())
          | .error fault => settled tree fault
      | .error fault => settled tree fault

def makeDirectories (tree : FileTree) (directory : Location) (path : Path) :
    FileTree × Except Fault Unit := tree.makeChain directory path.ancestors

def remove (tree : FileTree) (directory : Location) (path : Path) : Except Fault FileTree := do
  let (location, _) ← tree.entryAt directory false path
  return tree.erase location

end LocaleFamilies.FileTree
