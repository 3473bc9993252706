import LocaleFamilies.Family.Basic
import LocaleFamilies.Path.Join
import LocaleFamilies.Path.Normal
import LocaleFamilies.Path.Relative
import LocaleFamilies.Text.Blank

/-! Change lists: the files that were edited, as a version control system names them, and the
families that they touch. Without a list every family counts; a list that names nothing usable
still selects, and selects nothing. -/
namespace LocaleFamilies

/-- Either no list was supplied, or the normal forms of the listed paths by their components. -/
inductive ChangeList
  | fullScan
  | listed (paths : SortedMap (List Component) Path)
  deriving DecidableEq

namespace ChangeList

def ofPaths (paths : List Path) : ChangeList :=
  .listed <| .ofList <| paths.map fun path => (path.normalize.components, path.normalize)

/-- The place that an entry of a list names. A relative entry is read from the root directory; when
it starts with that directory's own name, as in a list made one level higher, the name is dropped. -/
def entry (root path : Path) : Path :=
  if path.isAbsolute then path
  else
    match path.components.head?, root.fileName? with
    | some (.name first), some name =>
      root.join (if first = name then path.dropComponents 1 else path)
    | _, _ => root.join path

/-- Reads a list with a comma between its entries. White space around an entry and empty entries are
ignored; only a wholly empty text asks for a full scan. -/
def parse (raw : String) (root : Path) : ChangeList :=
  if raw.isEmpty then .fullScan
  else
    let texts := (Separated.parts ',' raw.toList).map Text.trim
    let named := texts.filter fun text => !text.isEmpty
    ofPaths <| named.map fun text => entry root (Path.ofText (String.ofList text))

def isFullScan : ChangeList → Bool
  | fullScan => true
  | listed _ => false

def paths : ChangeList → List Path
  | fullScan => []
  | listed paths => paths.values

/-- Whether a path is listed, under any spelling with the same normal form. -/
def contains : ChangeList → Path → Bool
  | fullScan, _ => false
  | listed paths, path => paths.contains path.normalize.components

def touches (changes : ChangeList) (family : Family) : Bool :=
  family.members.values.any changes.contains

/-- The families that a run is about: all of them in a full scan, else those with a listed member. -/
def affected (changes : ChangeList) (families : FamilyMap) : FamilyMap :=
  if changes.isFullScan then families
  else families.filter fun entry => changes.touches entry.2

end ChangeList

end LocaleFamilies
