import LocaleFamilies.Path.Basic
import LocaleFamilies.SortedMap

/-! File trees as values. An entry is a file, a directory, a symbolic link or one of the things that
a machine brings with it, and is found by its location, the names on the way from the root. Locations
are ordered name by name, so the entries below a directory follow it, each directory before what it
holds and in the order of the names. -/
namespace LocaleFamilies

/-- Where an entry is: the names on the way from the root, which itself is the empty way. -/
abbrev Location := List Bytes

inductive Entry
  | file (content : Bytes) (runnable : Bool)
  | directory
  | link (target : Path)
  /-- What takes in all that is written to it and holds nothing. -/
  | sink
  | program (name : String)
  deriving DecidableEq

namespace FileTree

def nameLimit : Nat := 255

def isName (bytes : Bytes) : Bool :=
  !bytes.isEmpty && bytes != [Bytes.dot] && bytes != [Bytes.dot, Bytes.dot] &&
    !bytes.contains Bytes.slash && bytes.length ≤ nameLimit

/-- Every entry has a name and is in a directory. The root has no entry of its own. -/
def Grounded (entries : SortedMap Location Entry) : Prop :=
  ∀ location entry, (location, entry) ∈ entries.entries → location.getLast?.any isName = true ∧
    (location.dropLast = [] ∨ entries.get? location.dropLast = some .directory)

end FileTree

structure FileTree where
  entries : SortedMap Location Entry
  grounded : FileTree.Grounded entries

namespace FileTree

def empty : FileTree := ⟨.empty, by intro location entry member; cases member⟩

instance : Inhabited FileTree := ⟨empty⟩

def get? (tree : FileTree) (location : Location) : Option Entry :=
  if location = [] then some .directory else tree.entries.get? location

/-- Whether an entry may be put at a location: it has a name, its parent is a directory, and a
directory is not replaced by something else. -/
def admits (tree : FileTree) (location : Location) (entry : Entry) : Bool :=
  location.getLast?.any isName && tree.get? location.dropLast == some .directory &&
    (tree.get? location != some .directory || entry == .directory)

theorem ne_nil_of_named {location : Location} (named : location.getLast?.any isName = true) :
    location ≠ [] := by
  rintro rfl
  cases named

theorem grounded_insert (tree : FileTree) (location : Location) (entry : Entry)
    (admitted : tree.admits location entry = true) :
    Grounded (tree.entries.insert location entry) := by
  simp only [admits, Bool.and_eq_true, bne_iff_ne, beq_iff_eq, Bool.or_eq_true, get?] at admitted
  obtain ⟨⟨named, parent⟩, kept⟩ := admitted
  have nonempty := ne_nil_of_named named
  rw [if_neg nonempty] at kept
  have shorter : ∀ {l : Location}, l ≠ [] → l.dropLast ≠ l := by
    intro l some_name same
    have := congrArg List.length same
    have := List.length_pos_iff.mpr some_name
    simp at *
    omega
  intro other found member
  rcases (SortedMap.mem_insert_iff _ _ _ _).mp member with same | ⟨old, _⟩
  · cases same
    refine ⟨named, ?_⟩
    by_cases top : location.dropLast = []
    · exact Or.inl top
    · rw [if_neg top] at parent
      exact Or.inr (by rw [SortedMap.get?_insert_of_ne _ _ (shorter nonempty), parent])
  · obtain ⟨some_name, above⟩ := tree.grounded _ _ old
    refine ⟨some_name, above.imp id fun directory => ?_⟩
    by_cases here : other.dropLast = location
    · rw [here] at directory ⊢
      rw [SortedMap.get?_insert_self]
      exact congrArg some (kept.resolve_left (fun no => no directory))
    · rw [SortedMap.get?_insert_of_ne _ _ here, directory]

/-- Puts an entry at a location that admits it; elsewhere nothing changes. -/
def put (tree : FileTree) (location : Location) (entry : Entry) : FileTree :=
  if admitted : tree.admits location entry = true then
    ⟨tree.entries.insert location entry, tree.grounded_insert location entry admitted⟩
  else tree

theorem grounded_erase (tree : FileTree) (location : Location) :
    Grounded (tree.entries.filter fun entry => !location.isPrefixOf entry.1) := by
  intro other found member
  obtain ⟨old, outside⟩ := (SortedMap.mem_filter_iff _ _ _).mp member
  obtain ⟨some_name, above⟩ := tree.grounded _ _ old
  refine ⟨some_name, above.imp id fun directory => ?_⟩
  rw [SortedMap.get?_eq_some_iff] at directory ⊢
  refine (SortedMap.mem_filter_iff _ _ _).mpr ⟨directory, ?_⟩
  simp only [Bool.not_eq_true', ← Bool.not_eq_true, List.isPrefixOf_iff_prefix] at outside ⊢
  exact fun below => outside (below.trans (List.dropLast_prefix other))

def erase (tree : FileTree) (location : Location) : FileTree :=
  ⟨tree.entries.filter fun entry => !location.isPrefixOf entry.1, tree.grounded_erase location⟩

end FileTree

end LocaleFamilies
