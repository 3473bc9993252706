import LocaleFamilies.Proofs.Path.Normal
import LocaleFamilies.Proofs.Translation.Election

/-! One edit touches one member. A change list goes by normal forms, and a family by keys that are not
normalized, so two members could be taken for one another. They never are: a name stays in the normal form
and tells the locale, and a path that ends in no name is too short for the normal form of a member that
has one. So no more members of a family are listed than there are paths in the list. -/
namespace LocaleFamilies

namespace Path

/-- A path that ends in a name keeps it in its normal form. -/
theorem normalComponents_of_fileName? {path : Path} {name : Bytes}
    (named : path.fileName? = some name) :
    normalComponents path.components =
      normalComponents path.components.dropLast ++ [.name name] := by
  have ends := (fileName?_eq_some_iff path name).mp named
  rw [← normalComponents_concat_name, ← ends]

theorem length_normalComponents_lengthen_le (directory : List Component) (stretch : Bytes) :
    (normalComponents (lengthen directory stretch)).length ≤
      (normalComponents directory).length + 1 := by
  unfold lengthen
  split
  · exact Nat.zero_le _
  · cases component? stretch with
    | none => simp
    | some component =>
      have longer := length_settle_le (normalComponents directory).reverse component
      rw [Option.toList_some, normalComponents_concat, List.length_reverse]
      rwa [List.length_reverse] at longer

/-- A step to the parent gives no name, unless it takes one back that stood before the last one. -/
theorem length_of_normalComponents_parent {components before : List Component} {name : Bytes}
    (same : normalComponents (components ++ [.parent]) = before ++ [.name name]) :
    (normalComponents components).length = before.length + 2 := by
  rw [normalComponents_concat] at same
  have shown := congrArg List.reverse same
  rw [List.reverse_reverse, List.reverse_concat] at shown
  unfold settle at shown
  simp only at shown
  split at shown
  · rename_i cut rest whole
    have sizes := congrArg List.length whole
    rw [shown] at sizes
    simpa using sizes
  · rename_i whole
    rw [whole] at shown
    cases shown
  · cases shown

end Path

namespace Registry

variable (registry : Registry)

/-- The locale of a file is read off its stem alone. -/
theorem slot_locale_congr {first second : Path} (same : first.stem? = second.stem?) :
    (registry.slot first).2 = (registry.slot second).2 := by
  unfold slot place
  rw [same]
  simp only
  split
  · rfl
  · split <;> rfl

/-- A path that ends in no name is placed in the family of what is left without its last component. -/
theorem slot_key_of_unnamed {path : Path} (unnamed : path.fileName? = none) :
    (registry.slot path).1 = path.components.dropLast := by
  have stemless : path.stem?.getD [] = [] := by
    rw [Path.stem?, unnamed]
    rfl
  have unmarked : registry.marker? [] = none := rfl
  have alone (directory : Path) : (directory.join ⟨[]⟩).components = directory.components := by
    rw [Path.components_join_relative directory rfl (by decide)]
    exact List.append_nil _
  rw [← Path.components_parent]
  unfold slot place
  simp only [stemless, unmarked]
  split
  · rfl
  · exact alone _

/-- The key of a file whose path ends in a name has at most one component more than its directory. -/
theorem slot_key_cases {path : Path} {name : Bytes} (named : path.fileName? = some name) :
    (registry.slot path).1 = path.components.dropLast ∨
      ∃ stretch, (registry.slot path).1 = Path.lengthen path.components.dropLast stretch := by
  rw [registry.slot_eq_slotIn named]
  unfold slotIn
  split
  · exact Or.inr ⟨_, rfl⟩
  · split
    · exact Or.inl rfl
    · exact Or.inr ⟨_, rfl⟩

/-- A path that ends in no name has another normal form than the named files of its family. -/
theorem normalComponents_ne_of_unnamed {path other : Path} {name : Bytes}
    (unnamed : path.fileName? = none) (named : other.fileName? = some name)
    (related : (registry.slot path).1 = (registry.slot other).1) :
    Path.normalComponents path.components ≠ Path.normalComponents other.components := by
  intro same
  rw [Path.normalComponents_of_fileName? named] at same
  cases last : path.components.getLast? with
  | none =>
    rw [List.getLast?_eq_none_iff.mp last] at same
    simp [Path.normalComponents] at same
  | some component =>
    have whole := List.dropLast_append_getLast? component last
    rw [registry.slot_key_of_unnamed unnamed] at related
    cases component with
    | name bytes => simp [Path.fileName?, last] at unnamed
    | parent =>
      rw [← whole] at same
      have longer := Path.length_of_normalComponents_parent same
      rw [related] at longer
      rcases registry.slot_key_cases named with beside | ⟨stretch, beside⟩
      · rw [beside] at longer
        omega
      · have bounded := Path.length_normalComponents_lengthen_le other.components.dropLast stretch
        rw [beside] at longer
        omega
    | root =>
      rw [← whole, Path.normalComponents_concat] at same
      simp [Path.settle] at same
    | current =>
      have top : path.components.dropLast = [] := by
        by_contra below
        have later : Component.current ∈ path.components.tail := by
          rw [← whole, List.tail_append_of_ne_nil below]
          simp
        rcases Path.of_mem_tail later with step | ⟨name, step⟩ <;> cases step
      rw [← whole, top] at same
      exact absurd same.symm (List.append_ne_nil_of_right_ne_nil _ (List.cons_ne_nil _ _))

end Registry

namespace ChangeList

/-- A list that names one file, in whatever spellings, holds one path. -/
theorem length_paths_ofPaths_le {listed : List Path}
    (one : ∀ first ∈ listed, ∀ second ∈ listed, first.normalize.same second.normalize = true) :
    (ofPaths listed).paths.length ≤ 1 := by
  let map : SortedMap (List Component) Path :=
    .ofList <| listed.map fun path => (path.normalize.components, path.normalize)
  have size : (ofPaths listed).paths.length = map.keys.length := by
    simp [ofPaths, paths, SortedMap.values, SortedMap.keys, map]
  have key {components : List Component} (member : components ∈ map.keys) :
      ∃ path ∈ listed, path.normalize.components = components := by
    simpa [map, SortedMap.mem_keys_ofList_iff] using member
  rw [size]
  cases keys : map.keys with
  | nil => exact Nat.zero_le 1
  | cons first rest =>
    have alone : first :: rest ⊆ [first] := by
      intro other member
      rw [← keys] at member
      obtain ⟨path, inside, rfl⟩ := key member
      obtain ⟨path', inside', rfl⟩ := key (keys ▸ List.mem_cons_self)
      exact List.mem_singleton.mpr (eq_of_beq (one path inside path' inside'))
    exact (keys ▸ map.nodup_keys).length_le_of_subset alone

/-- A text without commas names at most one file. -/
theorem length_paths_parse_le {raw : String} (single : ',' ∉ raw.toList) (root : Path) :
    (parse raw root).paths.length ≤ 1 := by
  unfold parse
  split
  · exact Nat.zero_le 1
  · simp only [Separated.parts, Separated.cut_of_not_mem _ _ single]
    refine length_paths_ofPaths_le fun first member second member' => ?_
    obtain ⟨text, named, rfl⟩ := List.mem_map.mp member
    obtain ⟨text', named', rfl⟩ := List.mem_map.mp member'
    have whole := List.mem_singleton.mp (List.mem_filter.mp named).1
    have whole' := List.mem_singleton.mp (List.mem_filter.mp named').1
    rw [whole, whole']
    exact beq_self_eq_true _

end ChangeList

/-- An election is open only if several members are listed. -/
theorem Election.hold_ne_ambiguous {family : Family} {defaultCode : Code} {changes : ChangeList}
    (few : (family.members.entries.filter fun member => changes.contains member.2).length ≤ 1)
    (changed : List Code) : hold family defaultCode changes ≠ .ambiguous changed := by
  intro still_open
  unfold hold at still_open
  simp only at still_open
  split at still_open
  · cases still_open
  · split at still_open
    · unfold withoutChanges at still_open
      split at still_open
      · cases still_open
      · split at still_open <;> cases still_open
    · cases still_open
    · rename_i several not_none not_one
      generalize family.members.entries.filter (fun member => changes.contains member.2) = listed at *
      match listed, few with
      | [], _ => exact not_none rfl
      | [member], _ => exact not_one member.1 member.2 rfl

namespace Grouping

variable {registry : Registry} {paths : List Path} {family : Family}

/-- Members of one family in different locales have different normal forms. -/
theorem normalize_ne_of_members (grouped : family ∈ (of registry paths).families.families)
    {locale locale' : Code} {path path' : Path} (held : family.get? locale = some path)
    (held' : family.get? locale' = some path') (other : locale ≠ locale') :
    path.normalize.components ≠ path'.normalize.components := by
  obtain ⟨key, found⟩ := get?_of_mem_families registry paths grouped
  have slot {locale : Code} {path : Path} (held : family.get? locale = some path) :
      registry.slot path = (family.key.components, locale) := by
    rw [get?_family registry paths found] at held
    exact (mem_of_member? registry paths held).2
  have related : (registry.slot path).1 = (registry.slot path').1 := by
    rw [slot held, slot held']
  have apart : path.stem? ≠ path'.stem? := by
    intro same
    have locales := registry.slot_locale_congr same
    rw [slot held, slot held'] at locales
    exact other locales
  rw [Path.components_normalize, Path.components_normalize]
  cases named : path.fileName? with
  | none =>
    cases named' : path'.fileName? with
    | none => exact absurd (by rw [Path.stem?, Path.stem?, named, named']) apart
    | some name' => exact registry.normalComponents_ne_of_unnamed named named' related
  | some name =>
    cases named' : path'.fileName? with
    | none => exact (registry.normalComponents_ne_of_unnamed named' named related.symm).symm
    | some name' =>
      intro same
      rw [Path.normalComponents_of_fileName? named, Path.normalComponents_of_fileName? named'] at same
      obtain ⟨-, last⟩ := List.append_inj' same rfl
      cases last
      exact apart (by rw [Path.stem?, Path.stem?, named, named'])

/-- No more members of a family are listed than there are paths in the list. -/
theorem length_listed_members_le (grouped : family ∈ (of registry paths).families.families)
    (changes : ChangeList) :
    (family.members.entries.filter fun member => changes.contains member.2).length ≤
      changes.paths.length := by
  cases changes with
  | fullScan => simp [ChangeList.contains_fullScan]
  | listed listed =>
    let members := family.members.entries.filter fun member =>
      (ChangeList.listed listed).contains member.2
    have held {member : Code × Path} (inside : member ∈ members) :
        family.get? member.1 = some member.2 :=
      (SortedMap.get?_eq_some_iff _ _ _).mpr (List.mem_filter.mp inside).1
    have apart : (members.map fun member => member.2.normalize.components).Nodup := by
      refine List.pairwise_map.mpr ?_
      refine (family.members.pairwise_key_ne.filter _).imp_of_mem fun inside inside' other => ?_
      exact normalize_ne_of_members grouped (held inside) (held inside') other
    have inside : members.map (fun member => member.2.normalize.components) ⊆ listed.keys := by
      intro components member
      obtain ⟨⟨locale, path⟩, chosen, rfl⟩ := List.mem_map.mp member
      exact (SortedMap.contains_iff _ _).mp (List.mem_filter.mp chosen).2
    have bounded := apart.length_le_of_subset inside
    simpa [SortedMap.keys, ChangeList.paths, SortedMap.values] using bounded

/-- Members of one family in different locales have different normal forms. So a change list contains no
more members of a family than it holds paths, and a list that names a single file, in whatever spellings,
never leaves it open which of them to translate from. -/
theorem edits_touch_members_apart (grouped : family ∈ (of registry paths).families.families) :
    (∀ locale locale' path path', family.get? locale = some path →
      family.get? locale' = some path' → locale ≠ locale' →
        path.normalize.same path'.normalize = false) ∧
      (∀ changes : ChangeList,
        (family.members.entries.filter fun member => changes.contains member.2).length ≤
          changes.paths.length ∧
        (changes.paths.length ≤ 1 →
          ∀ changed, Election.hold family registry.defaultCode changes ≠ .ambiguous changed)) ∧
      (∀ listed : List Path,
        (∀ first ∈ listed, ∀ second ∈ listed, first.normalize.same second.normalize = true) →
          (ChangeList.ofPaths listed).paths.length ≤ 1) ∧
      ∀ raw root, ',' ∉ raw.toList → (ChangeList.parse raw root).paths.length ≤ 1 := by
  refine ⟨fun locale locale' path path' held held' other => ?_, fun changes => ?_,
    fun listed => ChangeList.length_paths_ofPaths_le,
    fun raw root single => ChangeList.length_paths_parse_le single root⟩
  · exact beq_eq_false_iff_ne.mpr (normalize_ne_of_members grouped held held' other)
  · have bounded := length_listed_members_le grouped changes
    exact ⟨bounded, fun single => Election.hold_ne_ambiguous (Nat.le_trans bounded single)⟩

/-- The Chinese file in the parent of a directory and an English one in the directory itself, whose stem is
two dots, are one family. A list that names the Chinese one by a detour leaves nothing open. -/
theorem edits_touch_members_apart_dots :
    let paths := ["docs/../zh.md", "docs/...md"].map Path.ofText
    let family : Family := ⟨Path.ofText "docs/..", .ofList [("en", Path.ofText "docs/...md"),
      ("zh", Path.ofText "docs/../zh.md")]⟩
    let changes := ChangeList.parse "site/notes/../zh.md" (Path.ofText "site")
    family ∈ (of .bilingual paths).families.families ∧ "en" ≠ "zh" ∧
      (Path.ofText "docs/...md").normalize.same (Path.ofText "docs/../zh.md").normalize = false ∧
      changes.paths.length ≤ 1 ∧ ∀ changed, Election.hold family "en" changes ≠ .ambiguous changed := by
  intro paths family changes
  have grouped : family ∈ (of .bilingual paths).families.families := by decide
  obtain ⟨apart, counted, -, single⟩ := edits_touch_members_apart grouped
  have few : changes.paths.length ≤ 1 := single _ _ (by decide)
  exact ⟨grouped, by decide, apart "en" "zh" _ _ (by decide) (by decide) (by decide), few,
    (counted changes).2 few⟩

end Grouping

end LocaleFamilies
