import LocaleFamilies.Proofs.ChangeList.Affected
import LocaleFamilies.Translation.Election

/-! The election of a source. Its outcome follows one of two rules, and which one is known before it is
held: in a family with a listed member it goes by the edits, and may end open, and in a full scan it goes
by the codes, and finds a source, since every family has a member. -/
namespace LocaleFamilies

namespace Election

/-- An election that goes by edits: the default locale comes first, then the only listed member, and of
several other ones none is preferred. -/
inductive GoesByEdits (family : Family) (defaultCode : Code) (changes : ChangeList) : Election → Prop
  | changedDefault {path : Path} (held : family.get? defaultCode = some path)
    (listed : changes.contains path = true) :
    GoesByEdits family defaultCode changes (.elected ⟨defaultCode, path⟩ .changedDefault)
  | singleChange {source : Source} (held : family.get? source.locale = some source.path)
    (listed : changes.contains source.path = true)
    (alone : ∀ locale path, family.get? locale = some path → changes.contains path = true →
      locale = source.locale)
    (other : source.locale ≠ defaultCode) :
    GoesByEdits family defaultCode changes (.elected source .singleChange)
  | ambiguous {changed : List Code} (several : 2 ≤ changed.length) (other : defaultCode ∉ changed)
    (ordered : changed.Pairwise fun first second => compare first second = .lt)
    (exact : ∀ locale, locale ∈ changed ↔
      ∃ path, family.get? locale = some path ∧ changes.contains path = true) :
    GoesByEdits family defaultCode changes (.ambiguous changed)

/-- An election without edits: the default locale, or else the member with the least code. -/
inductive GoesByCodes (family : Family) (defaultCode : Code) : Election → Prop
  | unchangedDefault {path : Path} (held : family.get? defaultCode = some path) :
    GoesByCodes family defaultCode (.elected ⟨defaultCode, path⟩ .unchangedDefault)
  | firstAvailable {source : Source} (missing : family.get? defaultCode = none)
    (held : family.get? source.locale = some source.path)
    (least : ∀ locale path, family.get? locale = some path →
      locale = source.locale ∨ compare source.locale locale = .lt) :
    GoesByCodes family defaultCode (.elected source .firstAvailable)

variable {family : Family} {defaultCode : Code} {changes : ChangeList} {source : Source}

private theorem source?_withoutChanges
    (elected : (withoutChanges family defaultCode).source? = some source) :
    family.get? source.locale = some source.path := by
  unfold withoutChanges at elected
  split at elected
  · rename_i path found
    cases elected
    exact found
  · split at elected
    · rename_i locale path rest entries
      cases elected
      exact (SortedMap.get?_eq_some_iff _ _ _).mpr (by simp [entries])
    · cases elected

theorem source?_hold (elected : (hold family defaultCode changes).source? = some source) :
    family.get? source.locale = some source.path := by
  have member {locale : Code} {path : Path} (changed : (locale, path) ∈
      family.members.entries.filter fun member => changes.contains member.2) :
      family.get? locale = some path :=
    (SortedMap.get?_eq_some_iff _ _ _).mpr (List.mem_filter.mp changed).1
  unfold hold at elected
  simp only at elected
  split at elected
  · rename_i locale path found
    cases elected
    exact member (List.mem_of_find?_eq_some found)
  · split at elected
    · exact source?_withoutChanges elected
    · rename_i locale path changed
      cases elected
      have alone : (locale, path) ∈
          family.members.entries.filter fun member => changes.contains member.2 := by
        rw [changed]
        exact List.mem_singleton_self _
      exact member alone
    · cases elected

theorem hold_changedDefault {path : Path} (held : family.get? defaultCode = some path)
    (listed : changes.contains path = true) :
    hold family defaultCode changes = .elected ⟨defaultCode, path⟩ .changedDefault := by
  have member : (defaultCode, path) ∈
      family.members.entries.filter fun member => changes.contains member.2 :=
    List.mem_filter.mpr ⟨(SortedMap.get?_eq_some_iff _ _ _).mp held, listed⟩
  unfold hold
  simp only
  split
  · rename_i locale other found
    have same := List.find?_some found
    obtain rfl : locale = defaultCode := eq_of_beq same
    have entry := (List.mem_filter.mp (List.mem_of_find?_eq_some found)).1
    rw [SortedMap.value_unique family.members entry ((SortedMap.get?_eq_some_iff _ _ _).mp held)]
  · rename_i absent
    exact absurd (beq_self_eq_true defaultCode) (List.find?_eq_none.mp absent _ member)

/-- In a family with a listed member, the election goes by edits. -/
theorem goesByEdits_hold (touched : changes.touches family = true) :
    GoesByEdits family defaultCode changes (hold family defaultCode changes) := by
  generalize listing : family.members.entries.filter (fun member => changes.contains member.2) = changed
  have mem_changed (locale : Code) (path : Path) : (locale, path) ∈ changed ↔
      family.get? locale = some path ∧ changes.contains path = true := by
    rw [← listing, List.mem_filter, Family.get?, SortedMap.get?_eq_some_iff]
  by_cases default : ∃ path, family.get? defaultCode = some path ∧ changes.contains path = true
  · obtain ⟨path, held, listed⟩ := default
    rw [hold_changedDefault held listed]
    exact .changedDefault held listed
  have other {locale : Code} {path : Path} (member : (locale, path) ∈ changed) :
      locale ≠ defaultCode := by
    rintro rfl
    exact default ⟨path, (mem_changed _ _).mp member⟩
  have unlisted : changed.find? (fun member => member.1 == defaultCode) = none :=
    List.find?_eq_none.mpr fun member listed same => other listed (eq_of_beq same)
  unfold hold
  simp only [listing, unlisted]
  cases changed with
  | nil =>
    obtain ⟨locale, path, both⟩ := (changes.touches_iff family).mp touched
    cases (mem_changed locale path).mpr both
  | cons first rest =>
    cases rest with
    | nil =>
      obtain ⟨held, listed⟩ := (mem_changed first.1 first.2).mp (List.mem_singleton_self first)
      refine .singleChange held listed (fun locale path held listed => ?_)
        (other (List.mem_singleton_self first))
      exact congrArg Prod.fst (List.mem_singleton.mp ((mem_changed locale path).mpr ⟨held, listed⟩))
    | cons second rest =>
      refine .ambiguous (by simp) (fun member => ?_) ?_ fun locale => ?_
      · obtain ⟨⟨locale, path⟩, listed, same⟩ := List.mem_map.mp member
        exact other listed same
      · rw [← listing]
        exact List.pairwise_map.mpr (family.members.ascending.filter _)
      · simp only [List.mem_map, Prod.exists, mem_changed, exists_and_right, exists_eq_right]

theorem goesByCodes_hold {locale : Code} {path : Path} (member : family.get? locale = some path) :
    GoesByCodes family defaultCode (hold family defaultCode .fullScan) := by
  have unlisted : hold family defaultCode .fullScan = withoutChanges family defaultCode := by
    simp [hold, ChangeList.contains_fullScan]
  rw [unlisted, withoutChanges]
  cases held : family.get? defaultCode with
  | some path => exact .unchangedDefault held
  | none =>
    have entry := (SortedMap.get?_eq_some_iff family.members locale path).mp member
    have ascending := family.members.ascending
    have found := SortedMap.get?_eq_some_iff family.members
    cases entries : family.members.entries with
    | nil => rw [entries] at entry; cases entry
    | cons first rest =>
      rw [entries, List.pairwise_cons] at ascending
      refine .firstAvailable held ?_ fun locale path held => ?_
      · exact (found first.1 first.2).mpr (by simp [entries])
      · have entry := (found locale path).mp held
        rw [entries, List.mem_cons] at entry
        rcases entry with same | later
        · exact Or.inl (congrArg Prod.fst same)
        · exact Or.inr (ascending.1 _ later)

theorem GoesByCodes.exists_elected {election : Election}
    (goes : GoesByCodes family defaultCode election) :
    ∃ source strategy, election = .elected source strategy := by
  cases goes with
  | unchangedDefault held => exact ⟨_, _, rfl⟩
  | firstAvailable missing held least => exact ⟨_, _, rfl⟩

end Election

namespace Grouping

variable {registry : Registry} {paths : List Path} {family : Family}

theorem goesByCodes_of_mem (member : family ∈ (of registry paths).families.families) :
    Election.GoesByCodes family registry.defaultCode
      (Election.hold family registry.defaultCode .fullScan) := by
  obtain ⟨key, found⟩ := get?_of_mem_families registry paths member
  obtain ⟨locale, path, held⟩ := exists_member registry paths found
  exact Election.goesByCodes_hold held

end Grouping

end LocaleFamilies
