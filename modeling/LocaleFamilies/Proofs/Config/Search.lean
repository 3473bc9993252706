import LocaleFamilies.Config.Search
import LocaleFamilies.Proofs.Path.Relative
import LocaleFamilies.Proofs.Scan.Exactness
import Mathlib.Data.List.Infix

/-! The search for a configuration. It goes through the start and the directories above it, up to the root,
and ends at the first of them that has a configuration or is the top of a repository. -/
namespace LocaleFamilies

namespace Path

variable {path : Path}

theorem parent?_of_components_root (top : path.components = [.root]) : path.parent? = none := by
  rcases cut : path.anatomy with ⟨lead, body⟩
  have whole : path.components = lead.components ++ body.filterMap component? := by
    rw [components, cut, Anatomy.components]
  have unrooted : Component.root ∉ body.filterMap component? := by
    intro member
    obtain ⟨part, -, found⟩ := List.mem_filterMap.mp member
    rcases component?_counts found with step | ⟨name, step⟩ <;> cases step
  rw [top] at whole
  cases lead with
  | bare =>
    rw [Lead.components, List.nil_append] at whole
    exact absurd (whole ▸ List.mem_singleton_self _) unrooted
  | current => simp [Lead.components] at whole
  | root =>
    have none : body.filterMap component? = [] := by simpa [Lead.components] using whole.symm
    rcases trimEnd_cases body with ⟨all, -⟩ | ⟨before, last, -, counts, -, same⟩
    · simp [parent?, cut, all]
    · rw [none, List.filterMap_append, eq_comm, List.append_eq_nil_iff] at same
      rw [Bool.eq_false_iff, Ne, ← component?_eq_none_iff] at counts
      exact absurd (by simpa using same.2) counts

/-- An absolute path is the root, which has no parent, or has one with a component less. -/
theorem parent?_of_isAbsolute (absolute : path.isAbsolute = true) :
    (path.components = [.root] ∧ path.parent? = none) ∨
      ∃ directory last, path.parent? = some directory ∧ directory.isAbsolute = true ∧
        path.components = directory.components ++ [last] := by
  obtain ⟨rest, whole⟩ := List.head?_eq_some_iff.mp (path.isAbsolute_iff.mp absolute)
  rcases List.eq_nil_or_concat rest with rfl | ⟨names, last, rfl⟩
  · exact Or.inl ⟨whole, parent?_of_components_root whole⟩
  · rcases path.parent?_cases with ⟨lead, alone, -⟩ | ⟨directory, found, above, -⟩
    · rw [whole] at alone
      cases lead <;> simp [Lead.components] at alone
    · rw [whole, List.concat_eq_append, ← List.cons_append, List.dropLast_concat] at above
      refine Or.inr ⟨directory, last, found, ?_, ?_⟩
      · rw [isAbsolute_iff, above, List.head?_cons]
      · rw [whole, above, List.concat_eq_append, List.cons_append]

theorem components_ancestorsWithin (absolute : path.isAbsolute = true) {count : Nat}
    (enough : path.components.length ≤ count) :
    (ancestorsWithin count path).map components = path.components.inits.tail.reverse := by
  induction count generalizing path with
  | zero =>
    have none := List.length_eq_zero_iff.mp (Nat.le_zero.mp enough)
    rw [isAbsolute_iff, none] at absolute
    cases absolute
  | succ count ih =>
    rcases parent?_of_isAbsolute absolute with ⟨top, no_parent⟩ | ⟨directory, last, above, rooted, whole⟩
    · simp [ancestorsWithin, no_parent, top]
    · rw [whole, List.length_append, List.length_singleton] at enough
      have inits : path.components.inits =
          directory.components.inits ++ [directory.components ++ [last]] := by
        rw [whole, List.inits_append]
        rfl
      have further := ih rooted (Nat.le_of_succ_le_succ enough)
      have some_init : directory.components.inits ≠ [] :=
        List.ne_nil_of_mem ((List.mem_inits [] _).mpr List.nil_prefix)
      rw [ancestorsWithin, above, List.map_cons]
      simp only [further]
      rw [inits, List.tail_append_of_ne_nil some_init, whole, List.reverse_append]
      rfl

/-- An absolute path and those that it lies in have the starts of its components, the longest first. -/
theorem components_ancestors (absolute : path.isAbsolute = true) :
    path.ancestors.map components = path.components.inits.tail.reverse :=
  components_ancestorsWithin absolute (Nat.le_refl _)

end Path

namespace Config

variable {tree : FileTree} {directory : Location}

/-- Of some directories, the nearest first, the one that has the configuration: it has an entry of that name,
and before it there is neither such an entry nor the top of a repository. Links are followed. -/
def IsNearest (tree : FileTree) (directory : Location) (paths : List Path) (path : Path) : Prop :=
  ∃ nearer farther, paths = nearer ++ path :: farther ∧
    tree.hasEntry directory (path.join (.ofText fileName)) = true ∧
    ∀ other ∈ nearer, tree.hasEntry directory (other.join (.ofText fileName)) = false ∧
      tree.hasEntry directory (other.join (.ofText ".git")) = false

theorem nearest?_eq_some_iff {paths : List Path} {file : Path} :
    nearest? tree directory paths = some file ↔
      ∃ path, IsNearest tree directory paths path ∧ file = path.join (.ofText fileName) := by
  induction paths with
  | nil => simp [nearest?, IsNearest]
  | cons first rest ih =>
    have here : (∃ path, IsNearest tree directory (first :: rest) path ∧
        file = path.join (.ofText fileName)) ↔
      (tree.hasEntry directory (first.join (.ofText fileName)) = true ∧
        file = first.join (.ofText fileName)) ∨
      (tree.hasEntry directory (first.join (.ofText fileName)) = false ∧
        tree.hasEntry directory (first.join (.ofText ".git")) = false ∧
        ∃ path, IsNearest tree directory rest path ∧ file = path.join (.ofText fileName)) := by
      constructor
      · rintro ⟨path, ⟨nearer, farther, split, present, passed⟩, rfl⟩
        rcases List.cons_eq_append_iff.mp split with ⟨rfl, same⟩ | ⟨others, rfl, later⟩
        · cases same
          exact Or.inl ⟨present, rfl⟩
        · obtain ⟨missing, open_ended⟩ := passed first List.mem_cons_self
          exact Or.inr ⟨missing, open_ended, path, ⟨others, farther, later, present,
            fun other member => passed other (List.mem_cons_of_mem _ member)⟩, rfl⟩
      · rintro (⟨present, rfl⟩ | ⟨missing, open_ended, path, ⟨nearer, farther, rfl, present, passed⟩, rfl⟩)
        · exact ⟨first, ⟨[], rest, rfl, present, List.forall_mem_nil _⟩, rfl⟩
        · refine ⟨path, ⟨first :: nearer, farther, rfl, present, ?_⟩, rfl⟩
          exact List.forall_mem_cons.mpr ⟨⟨missing, open_ended⟩, passed⟩
    rw [here, ← ih, nearest?]
    cases tree.hasEntry directory (first.join (.ofText fileName)) <;>
      cases tree.hasEntry directory (first.join (.ofText ".git")) <;>
        simp [eq_comm]

/-- The search goes through the start and every directory above it, and gives the configuration of the nearest
one that has one, unless the top of a repository is nearer. -/
theorem search_ends_nearest (tree : FileTree) (directory : Location) {start : Path}
    (absolute : start.isAbsolute = true) :
    start.ancestors.map Path.components = start.components.inits.tail.reverse ∧
      (∀ file, find? tree directory start = some file ↔
        ∃ path, IsNearest tree directory start.ancestors path ∧
          file = path.join (.ofText fileName)) ∧
      (find? tree directory start = none ↔
        ¬ ∃ path, IsNearest tree directory start.ancestors path) := by
  have found (file : Path) : find? tree directory start = some file ↔
      ∃ path, IsNearest tree directory start.ancestors path ∧
        file = path.join (.ofText fileName) := nearest?_eq_some_iff
  refine ⟨Path.components_ancestors absolute, found, ?_⟩
  rw [Option.eq_none_iff_forall_ne_some]
  constructor
  · rintro missing ⟨path, nearest⟩
    exact missing _ ((found _).mpr ⟨path, nearest, rfl⟩)
  · rintro missing file here
    obtain ⟨path, nearest, -⟩ := (found file).mp here
    exact missing ⟨path, nearest⟩

/-- A repository with its configuration at the top, one inside it with none, and a start in either of them. -/
theorem search_ends_nearest_site :
    let file := Entry.file [] false
    let tree := FileTree.ofEntries [(["site"], .directory), (["site", ".git"], .directory),
      (["site", ".i18nrc.json"], file), (["site", "docs"], .directory), (["site", "docs", "en"], .directory),
      (["site", "vendor"], .directory), (["site", "vendor", ".git"], file)]
    let docs := Path.ofText "/site//docs/en/."
    let vendor := Path.ofText "/site/vendor/lib"
    docs.isAbsolute = true ∧ vendor.isAbsolute = true ∧
      docs.ancestors = ["/site//docs/en/.", "/site//docs", "/site", "/"].map .ofText ∧
      find? tree [] docs = some (.ofText "/site/.i18nrc.json") ∧
      ¬ ∃ path, IsNearest tree [] vendor.ancestors path := by
  intro file tree docs vendor
  have absolute : docs.isAbsolute = true := by decide
  have absolute' : vendor.isAbsolute = true := by decide
  have chain : docs.ancestors = ["/site//docs/en/.", "/site//docs", "/site", "/"].map .ofText := by
    decide
  refine ⟨absolute, absolute', chain, ?_, ?_⟩
  · rw [(search_ends_nearest tree [] absolute).2.1]
    exact ⟨.ofText "/site", ⟨["/site//docs/en/.", "/site//docs"].map .ofText, [.ofText "/"], chain,
      by decide, by decide⟩, by decide⟩
  · rw [← (search_ends_nearest tree [] absolute').2.2]
    decide

end Config

end LocaleFamilies
