import LocaleFamilies.ChangeList
import LocaleFamilies.Proofs.Family.Accounting

/-! The families that a change list affects: those with a listed member. A listed file that was found is
such a member, or else it lost its slot to a later file and a collision names it; there is no third way,
so no edit is passed over in silence. -/
namespace LocaleFamilies

namespace ChangeList

variable (changes : ChangeList)

theorem contains_fullScan (path : Path) : fullScan.contains path = false := rfl

theorem isFullScan_iff : changes.isFullScan = true ↔ changes = .fullScan := by
  cases changes <;> simp [isFullScan]

theorem affected_fullScan (families : FamilyMap) : fullScan.affected families = families := rfl

/-- A family is touched if one of its members is listed. -/
theorem touches_iff (family : Family) : changes.touches family = true ↔
    ∃ locale path, family.get? locale = some path ∧ changes.contains path = true := by
  unfold touches SortedMap.values Family.get?
  rw [List.any_eq_true]
  constructor
  · rintro ⟨path, member, listed⟩
    obtain ⟨⟨locale, _⟩, entry, rfl⟩ := List.mem_map.mp member
    exact ⟨locale, _, (SortedMap.get?_eq_some_iff _ _ _).mpr entry, listed⟩
  · rintro ⟨locale, path, held, listed⟩
    exact ⟨path, List.mem_map.mpr ⟨_, (SortedMap.get?_eq_some_iff _ _ _).mp held, rfl⟩, listed⟩

variable (families : FamilyMap)

theorem mem_affected_iff (entry : List Component × Family) :
    entry ∈ (changes.affected families).entries ↔
      entry ∈ families.entries ∧ (changes.isFullScan = true ∨ changes.touches entry.2 = true) := by
  unfold affected
  split
  · rename_i full
    exact (and_iff_left (Or.inl full)).symm
  · rename_i supplied
    rw [SortedMap.mem_filter_iff, or_iff_right supplied]

theorem get?_affected_iff (key : List Component) (family : Family) :
    (changes.affected families).get? key = some family ↔
      families.get? key = some family ∧
        (changes.isFullScan = true ∨ changes.touches family = true) := by
  rw [SortedMap.get?_eq_some_iff, SortedMap.get?_eq_some_iff]
  exact changes.mem_affected_iff families (key, family)

/-- Selecting the affected families of those that are affected selects them all. -/
theorem affected_affected :
    changes.affected (changes.affected families) = changes.affected families := by
  by_cases full : changes.isFullScan = true
  · rw [affected, if_pos full]
  · unfold affected
    rw [if_neg full, if_neg full]
    ext1
    show List.filter _ (List.filter _ families.entries) = List.filter _ families.entries
    simp only [List.filter_filter, Bool.and_self]

end ChangeList

namespace Grouping

variable {registry : Registry} {paths : List Path} {changes : ChangeList}

/-- A listed file that holds its slot brings its family into the run. -/
theorem affected_of_member? {path : Path}
    (held : (of registry paths).member? (registry.slot path) = some path)
    (listed : changes.contains path = true) :
    ∃ family, (changes.affected (of registry paths).families).get? (registry.slot path).1 =
        some family ∧
      family.get? (registry.slot path).2 = some path := by
  obtain ⟨family, found, holds⟩ := Option.bind_eq_some_iff.mp held
  have touched : changes.touches family = true :=
    (changes.touches_iff family).mpr ⟨_, path, holds, listed⟩
  exact ⟨family, (changes.get?_affected_iff _ _ _).mpr ⟨found, Or.inr touched⟩, holds⟩

/-- A listed file that was found is a member of an affected family, which is the one that it belongs to,
or was displaced in a collision over its own slot. -/
theorem listed_file_kept_or_displaced {path : Path} (found : path ∈ paths)
    (listed : changes.contains path = true) :
    (∃ family, (changes.affected (of registry paths).families).get? (registry.slot path).1 =
        some family ∧
      family.get? (registry.slot path).2 = some path) ∨
    ∃ collision ∈ (of registry paths).collisions,
      collision.slot = registry.slot path ∧ collision.displaced = path := by
  rcases held_or_displaced registry paths found with held | ⟨collision, member, lost⟩
  · exact Or.inl (affected_of_member? held listed)
  · obtain ⟨recorded, here⟩ := List.mem_filter.mp member
    exact Or.inr ⟨collision, recorded, of_decide_eq_true here, lost⟩

/-- The first of three files for one slot is edited: no family is affected, and a collision names it. -/
theorem listed_file_displaced_intro :
    let paths := ["docs/intro.md", "docs/intro.en.md", "docs/intro.zh.md", "docs/intro.mdx"].map
      Path.ofText
    let changes := ChangeList.ofPaths [Path.ofText "docs/./intro.md"]
    Path.ofText "docs/intro.md" ∈ paths ∧ changes.contains (Path.ofText "docs/intro.md") = true ∧
      (changes.affected (of .bilingual paths).families).isEmpty = true ∧
      ∃ collision ∈ (of .bilingual paths).collisions,
        collision.displaced = Path.ofText "docs/intro.md" := by
  intro paths changes
  have found : Path.ofText "docs/intro.md" ∈ paths := by decide
  have listed : changes.contains (Path.ofText "docs/intro.md") = true := by decide
  have passed : (changes.affected (of .bilingual paths).families).isEmpty = true := by decide
  refine ⟨found, listed, passed, ?_⟩
  have accounted := @listed_file_kept_or_displaced .bilingual paths changes _ found listed
  rcases accounted with ⟨family, kept, -⟩ | ⟨collision, recorded, -, lost⟩
  · have entry := (SortedMap.get?_eq_some_iff _ _ _).mp kept
    rw [List.isEmpty_iff.mp passed] at entry
    cases entry
  · exact ⟨collision, recorded, lost⟩

end Grouping

end LocaleFamilies
