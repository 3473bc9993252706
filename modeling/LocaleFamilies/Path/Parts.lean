import LocaleFamilies.Path.Basic

/-! The parts of a path: its parent, its last name, and the stem and the extension of a name.
A name is cut at its last dot, but a dot at the front of a name never starts an extension. -/
namespace LocaleFamilies.Path

def trimEnd : List Bytes → List Bytes
  | [] => []
  | part :: rest =>
    match trimEnd rest with
    | [] => if isFiller part then [] else [part]
    | kept => part :: kept

def parent? (path : Path) : Option Path :=
  let ⟨lead, body⟩ := path.anatomy
  match trimEnd body with
  | [] =>
    match lead with
    | .current => some empty
    | _ => none
  | kept => some (Anatomy.toPath ⟨lead, trimEnd kept.dropLast⟩)

/-- A path and the ones that it lies in, as far as so many steps up. -/
def ancestorsWithin : Nat → Path → List Path
  | 0, path => [path]
  | count + 1, path =>
    path :: match path.parent? with
      | some parent => ancestorsWithin count parent
      | none => []

/-- A path and the ones that it lies in, the nearest first. Each step up drops a component. -/
def ancestors (path : Path) : List Path := ancestorsWithin path.components.length path

def fileName? (path : Path) : Option Bytes :=
  match path.components.getLast? with
  | some (.name bytes) => some bytes
  | _ => none

def cutAtLastDot : Bytes → Option (Bytes × Bytes)
  | [] => none
  | byte :: rest =>
    match cutAtLastDot rest with
    | some (before, after) => some (byte :: before, after)
    | none => if byte = Bytes.dot then some ([], rest) else none

def splitName (name : Bytes) : Bytes × Option Bytes :=
  match cutAtLastDot name with
  | some (before, after) => if before.isEmpty then (name, none) else (before, some after)
  | none => (name, none)

def stem? (path : Path) : Option Bytes := path.fileName?.map fun name => (splitName name).1

def extension? (path : Path) : Option Bytes := path.fileName?.bind fun name => (splitName name).2

end LocaleFamilies.Path
