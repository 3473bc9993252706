import LocaleFamilies.Family.Basic
import LocaleFamilies.Family.Placement

/-! Grouping files into families. Files are taken in order of discovery; when two of them have the
same family and locale the later one takes the slot, and the one that lost it is recorded. -/
namespace LocaleFamilies

/-- Two files for one slot: the later one is kept. -/
structure Collision where
  key : Path
  locale : Code
  kept : Path
  displaced : Path
  deriving DecidableEq

structure PlacedFile where
  path : Path
  place : Placement
  deriving DecidableEq

structure Grouping where
  families : FamilyMap
  collisions : List Collision
  placed : List PlacedFile

namespace Grouping

def empty : Grouping := ⟨.empty, [], []⟩

/-- Takes one more file. A family keeps the spelling of the key it was first met under. -/
def add (registry : Registry) (grouping : Grouping) (path : Path) : Grouping :=
  let place := registry.place path
  let slot := place.key.components
  let family := (grouping.families.get? slot).getD (.empty place.key)
  { families := grouping.families.insert slot (family.insert place.locale path)
    collisions :=
      match family.get? place.locale with
      | some displaced => grouping.collisions ++ [⟨place.key, place.locale, path, displaced⟩]
      | none => grouping.collisions
    placed := grouping.placed ++ [⟨path, place⟩] }

def of (registry : Registry) (paths : List Path) : Grouping :=
  paths.foldl (add registry) empty

end Grouping

end LocaleFamilies
