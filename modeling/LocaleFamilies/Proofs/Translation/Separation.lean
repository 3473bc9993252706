import LocaleFamilies.Proofs.Translation.Plans

/-! Families stand apart. All families are built in one map from one list of files, yet what a run does for
a family is settled by the files that belong to it and by which of them are listed as changed. Other
files may be found before, between and after them, and other changes may be listed. -/
namespace LocaleFamilies

namespace ChangeList

variable {changes others : ChangeList} {family : Family}

/-- Change lists that list the same members of a family. -/
def AgreeOn (changes others : ChangeList) (family : Family) : Prop :=
  ∀ locale path, family.get? locale = some path → changes.contains path = others.contains path

theorem AgreeOn.touches_eq (agree : changes.AgreeOn others family) :
    changes.touches family = others.touches family := by
  rw [Bool.eq_iff_iff, touches_iff, touches_iff]
  refine exists_congr fun locale => exists_congr fun path => and_congr_right fun held => ?_
  rw [agree locale path held]

/-- An election looks at a change list through the members of its family only. -/
theorem AgreeOn.hold_eq (agree : changes.AgreeOn others family) (defaultCode : Code) :
    Election.hold family defaultCode changes = Election.hold family defaultCode others := by
  have changed : family.members.entries.filter (fun member => changes.contains member.2) =
      family.members.entries.filter fun member => others.contains member.2 :=
    List.filter_congr fun member listed =>
      agree member.1 member.2 ((SortedMap.get?_eq_some_iff _ _ _).mpr listed)
  simp only [Election.hold, changed]

end ChangeList

namespace Grouping

variable (registry : Registry) (paths : List Path) (key : List Component)

def filesOf : List Path := paths.filter fun path => (registry.slot path).1 = key

/-- A family is built from its own files. -/
theorem get?_filesOf :
    (of registry (filesOf registry paths key)).families.get? key =
      (of registry paths).families.get? key := by
  induction paths using List.reverseRecOn with
  | nil => rfl
  | append_singleton paths path ih =>
    by_cases here : (registry.slot path).1 = key
    · subst here
      have more : filesOf registry (paths ++ [path]) (registry.slot path).1 =
          filesOf registry paths (registry.slot path).1 ++ [path] := by
        simp [filesOf, List.filter_append]
      rw [more, of_concat, of_concat, get?_add_self, get?_add_self, ih]
    · have same : filesOf registry (paths ++ [path]) key = filesOf registry paths key := by
        simp [filesOf, List.filter_append, here]
      rw [same, of_concat, get?_add_of_ne _ _ _ (Ne.symm here), ih]

variable {registry paths key}

theorem mem_filesOf {family : Family} (found : (of registry paths).families.get? key = some family)
    {locale : Code} {path : Path} (held : family.get? locale = some path) :
    path ∈ filesOf registry paths key := by
  rw [get?_family registry paths found, (key_of_get? registry paths found).1] at held
  obtain ⟨listed, shown⟩ := mem_of_member? registry paths held
  exact List.mem_filter.mpr ⟨listed, decide_eq_true (congrArg Prod.fst shown)⟩

/-- The decisions that a run takes on a family: one if the family is affected, and else none. -/
theorem decisions_filter_key (changes : ChangeList) :
    ((of registry paths).decisions registry changes).filter
        (fun decision => decision.key.components = key) =
      ((changes.affected (of registry paths).families).get? key).toList.map
        (.of registry changes) := by
  have keyed : (changes.affected (of registry paths).families).entries.filter
        (fun entry => entry.2.key.components = key) =
      (changes.affected (of registry paths).families).entries.filter fun entry => entry.1 = key :=
    List.filter_congr fun entry member => by
      rw [(key_of_get? registry paths ((SortedMap.get?_eq_some_iff _ _ _).mpr
        (mem_affected member))).1]
  unfold decisions FamilyMap.families SortedMap.values
  rw [List.map_map, List.filter_map]
  refine (congrArg _ (keyed.trans (SortedMap.filter_key _ key))).trans ?_
  rw [List.map_map]
  rfl

variable {first second : List Path} {changes others : ChangeList}

/-- Two runs that find the same files of a family, among whatever other files, and whose change lists
agree on them, make the same of it: both pass it over, or it has the same members in both, and the
same election and plan. -/
theorem families_stand_apart (same : filesOf registry first key = filesOf registry second key)
    (mode : changes.isFullScan = others.isFullScan)
    (agree : ∀ path ∈ filesOf registry first key, changes.contains path = others.contains path) :
    (changes.affected (of registry first).families).get? key =
        (others.affected (of registry second).families).get? key ∧
      ((of registry first).decisions registry changes).filter
          (fun decision => decision.key.components = key) =
        ((of registry second).decisions registry others).filter
          fun decision => decision.key.components = key := by
  have built : (of registry first).families.get? key = (of registry second).families.get? key := by
    rw [← get?_filesOf, same, get?_filesOf]
  have agreed {family : Family} (found : (of registry first).families.get? key = some family) :
      changes.AgreeOn others family := fun locale path held => agree path (mem_filesOf found held)
  have kept : (changes.affected (of registry first).families).get? key =
      (others.affected (of registry second).families).get? key := by
    refine Option.ext fun family => ?_
    rw [changes.get?_affected_iff, others.get?_affected_iff, ← built, mode]
    exact and_congr_right fun found => by rw [(agreed found).touches_eq]
  refine ⟨kept, ?_⟩
  rw [decisions_filter_key, decisions_filter_key, ← kept]
  refine List.map_congr_left fun family member => ?_
  have found := ((changes.get?_affected_iff _ _ _).mp (Option.mem_toList.mp member)).1
  rw [Decision.of, Decision.of, (agreed found).hold_eq]

/-- An edit of `docs/intro.zh.md` comes to the same beside an edited guide and beside other messages. -/
theorem families_stand_apart_intro :
    let first := ["docs/guide.md", "docs/intro.md", "docs/guide.zh.md", "docs/intro.zh.md"].map
      Path.ofText
    let second := ["docs/intro.md", "messages/en.json", "docs/intro.zh.md"].map Path.ofText
    let changes := ChangeList.ofPaths (["docs/guide.md", "docs/intro.zh.md"].map Path.ofText)
    let others := ChangeList.ofPaths [Path.ofText "docs/./intro.zh.md"]
    let key : List Component := [.name (Bytes.ofText "docs"), .name (Bytes.ofText "intro")]
    let onIntro (decisions : List Decision) : List Decision :=
      decisions.filter fun decision => decision.key.components = key
    filesOf .bilingual first key = filesOf .bilingual second key ∧
      changes.isFullScan = others.isFullScan ∧
      (∀ path ∈ filesOf .bilingual first key, changes.contains path = others.contains path) ∧
      (onIntro ((of .bilingual first).decisions .bilingual changes)).length = 1 ∧
      onIntro ((of .bilingual first).decisions .bilingual changes) =
        onIntro ((of .bilingual second).decisions .bilingual others) := by
  intro first second changes others key onIntro
  have same : filesOf .bilingual first key = filesOf .bilingual second key := by decide
  have agree : ∀ path ∈ filesOf .bilingual first key,
      changes.contains path = others.contains path := by decide
  have mode : changes.isFullScan = others.isFullScan := rfl
  have one : (onIntro ((of .bilingual first).decisions .bilingual changes)).length = 1 := by decide
  exact ⟨same, mode, agree, one, (families_stand_apart same mode agree).2⟩

end Grouping

end LocaleFamilies
