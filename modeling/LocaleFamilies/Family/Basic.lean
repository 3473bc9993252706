import LocaleFamilies.SortedMap
import LocaleFamilies.Locale.Registry
import LocaleFamilies.Path.Basic

/-! Document families: the locale variants of one document, one file for each locale. -/
namespace LocaleFamilies

/-- The files of one document by locale. The key is the locale-free start of their paths. -/
structure Family where
  key : Path
  members : SortedMap Code Path
  deriving DecidableEq

namespace Family

def empty (key : Path) : Family := ⟨key, .empty⟩

def get? (family : Family) (locale : Code) : Option Path := family.members.get? locale

def contains (family : Family) (locale : Code) : Bool := family.members.contains locale

def insert (family : Family) (locale : Code) (path : Path) : Family :=
  { family with members := family.members.insert locale path }

def size (family : Family) : Nat := family.members.size

def isEmpty (family : Family) : Bool := family.members.isEmpty

end Family

abbrev FamilyMap := SortedMap (List Component) Family

namespace FamilyMap

/-- The families of a list by their keys; of several with one key the last counts. -/
def ofFamilies (families : List Family) : FamilyMap :=
  .ofList <| families.map fun family => (family.key.components, family)

def families (map : FamilyMap) : List Family := map.values

end FamilyMap

end LocaleFamilies
