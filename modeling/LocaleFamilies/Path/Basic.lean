import LocaleFamilies.Bytes
import LocaleFamilies.Separated

/-! Paths. A path keeps its spelling, and means its components: empty names and inner dots are
fillers that do not count, a dot counts only at the very front of a relative path, and nothing is
resolved against a file tree. Two spellings with the same components are the same path. -/
namespace LocaleFamilies

inductive Component
  | root
  | current
  | parent
  | name (bytes : Bytes)
  deriving DecidableEq, Repr

namespace Component

/-- The order of components: the root first, then the two dotted ones, then names by their bytes. -/
def rank : Component → Bytes
  | root => [0]
  | current => [1]
  | parent => [2]
  | name bytes => 3 :: bytes

theorem rank_injective {first second : Component} (same : first.rank = second.rank) :
    first = second := by
  cases first <;> cases second <;> simp_all [rank]

instance : Ord Component := ⟨fun first second => compare first.rank second.rank⟩

instance : Std.TransOrd Component where
  eq_swap {first second} := by
    show compare first.rank second.rank = (compare second.rank first.rank).swap
    exact Std.OrientedCmp.eq_swap
  isLE_trans {first second third} := by
    show (compare first.rank second.rank).isLE → (compare second.rank third.rank).isLE →
      (compare first.rank third.rank).isLE
    exact Std.TransCmp.isLE_trans

instance : Std.LawfulEqOrd Component where
  compare_self {first} := by
    show compare first.rank first.rank = .eq
    exact Std.ReflCmp.compare_self
  eq_of_compare {_ _} same := rank_injective (Std.LawfulEqOrd.eq_of_compare same)

def spelling : Component → Bytes
  | root => []
  | current => [Bytes.dot]
  | parent => [Bytes.dot, Bytes.dot]
  | name bytes => bytes

end Component

structure Path where
  spelling : Bytes
  deriving DecidableEq, Repr

namespace Path

def ofText (text : String) : Path := ⟨Bytes.ofText text⟩

def empty : Path := ⟨[]⟩

instance : Inhabited Path := ⟨empty⟩

inductive Lead
  | bare
  | root
  | current
  deriving DecidableEq, Repr

/-- A path cut into its lead and the names after it, fillers included. -/
structure Anatomy where
  lead : Lead
  body : List Bytes
  deriving DecidableEq, Repr

/-- Whether a stretch between slashes counts for nothing. -/
def isFiller (part : Bytes) : Bool := part.isEmpty || part == [Bytes.dot]

def component? (part : Bytes) : Option Component :=
  if isFiller part then none
  else if part = [Bytes.dot, Bytes.dot] then some .parent
  else some (.name part)

def anatomy (path : Path) : Anatomy :=
  match Separated.cut Bytes.slash path.spelling with
  | ([], []) => ⟨.bare, []⟩
  | ([], body) => ⟨.root, body⟩
  | (first, body) => if first = [Bytes.dot] then ⟨.current, body⟩ else ⟨.bare, first :: body⟩

namespace Lead

def components : Lead → List Component
  | bare => []
  | root => [.root]
  | current => [.current]

end Lead

namespace Anatomy

def toPath : Anatomy → Path
  | ⟨.bare, body⟩ => ⟨Separated.join Bytes.slash body⟩
  | ⟨.root, body⟩ => ⟨Bytes.slash :: Separated.join Bytes.slash body⟩
  | ⟨.current, body⟩ => ⟨Separated.join Bytes.slash ([Bytes.dot] :: body)⟩

def components (anatomy : Anatomy) : List Component :=
  anatomy.lead.components ++ anatomy.body.filterMap component?

end Anatomy

def components (path : Path) : List Component := path.anatomy.components

def same (first second : Path) : Bool := first.components == second.components

def compare (first second : Path) : Ordering := Ord.compare first.components second.components

def isAbsolute (path : Path) : Bool := path.spelling.head? == some Bytes.slash

/-- The path with the given components, spelled without fillers. -/
def ofComponents : List Component → Path
  | .root :: rest => ⟨Bytes.slash :: Separated.join Bytes.slash (rest.map Component.spelling)⟩
  | components => ⟨Separated.join Bytes.slash (components.map Component.spelling)⟩

def display (path : Path) : String := Bytes.text path.spelling

end Path

end LocaleFamilies
