import LocaleFamilies.Proofs.Family.Grouping

/-! Grouping accounts for every file. Taking one more file puts it into its slot and drives out what the
slot held, so the files are those that the families hold and those that were displaced, each as often as
it was found. In one slot the files follow one another: every file but the first has displaced the one
before it, and the last one is held. -/
namespace LocaleFamilies

namespace FamilyMap

def files (map : FamilyMap) : List Path := map.families.flatMap fun family => family.members.values

variable (map : FamilyMap) (key : List Component)

theorem files_perm : map.files.Perm
    ((map.get? key).toList.flatMap (fun family => family.members.values) ++ files (map.erase key)) := by
  have split := (SortedMap.values_perm map key).flatMap_right fun family => family.members.values
  rwa [List.flatMap_append] at split

theorem files_insert_perm (family : Family) :
    (files (map.insert key family)).Perm (family.members.values ++ files (map.erase key)) := by
  have split := (SortedMap.values_insert_perm map key family).flatMap_right
    fun family => family.members.values
  rwa [List.flatMap_cons] at split

end FamilyMap

def Collision.slot (collision : Collision) : Slot := (collision.key.components, collision.locale)

/-- The collisions of a slot that some files came into: each file drives out the one before it. -/
structure IsSuccession (files : List Path) (holder : Option Path) (collisions : List Collision) :
    Prop where
  displaced : collisions.map (·.displaced) = files.dropLast
  kept : collisions.map (·.kept) = files.tail
  linked : collisions.IsChain fun earlier later => later.displaced = earlier.kept
  first : ∀ collision ∈ collisions.head?, files.head? = some collision.displaced
  last : ∀ collision ∈ collisions.getLast?, holder = some collision.kept

theorem isSuccession_of {files : List Path} {collisions : List Collision}
    (displaced : collisions.map (·.displaced) = files.dropLast)
    (kept : collisions.map (·.kept) = files.tail) :
    IsSuccession files files.getLast? collisions := by
  refine ⟨displaced, kept, List.isChain_iff_getElem.mpr fun index bound => ?_, ?_, ?_⟩
  · have later := List.getElem_of_eq displaced (i := index + 1) (by simpa using bound)
    have earlier := List.getElem_of_eq kept (i := index) (by simp; omega)
    rw [List.getElem_map, List.getElem_dropLast] at later
    rw [List.getElem_map, List.getElem_tail] at earlier
    rw [later, earlier]
  · intro collision first
    have start := congrArg List.head? displaced
    rw [List.head?_map, first, List.head?_dropLast] at start
    split at start
    · exact start.symm
    · cases start
  · intro collision last
    have ending := congrArg List.getLast? kept
    rw [List.getLast?_map, last, List.getLast?_tail] at ending
    split at ending
    · cases ending
    · exact ending.symm

namespace Grouping

def collisionsIn (grouping : Grouping) (slot : Slot) : List Collision :=
  grouping.collisions.filter fun collision => collision.slot = slot

def candidates (registry : Registry) (paths : List Path) (slot : Slot) : List Path :=
  paths.filter fun path => registry.slot path = slot

section Step

variable (registry : Registry) (grouping : Grouping) (path : Path)

/-- With one more file, the families hold that file more, and the one that had its slot no longer. -/
theorem files_add :
    ((grouping.add registry path).families.files ++
        (grouping.member? (registry.slot path)).toList).Perm (path :: grouping.families.files) := by
  let key := (registry.slot path).1
  let locale := (registry.slot path).2
  let family := (grouping.families.get? key).getD (.empty (registry.place path).key)
  -- Before and after, the files of the other locales and of the other families are held.
  let rest := (family.members.erase locale).values ++ FamilyMap.files (grouping.families.erase key)
  have after : (grouping.add registry path).families.files.Perm (path :: rest) := by
    have families := FamilyMap.files_insert_perm grouping.families key (family.insert locale path)
    have members := SortedMap.values_insert_perm family.members locale path
    exact families.trans (members.append_right _)
  have before : grouping.families.files.Perm
      ((grouping.member? (registry.slot path)).toList ++ rest) := by
    have families := FamilyMap.files_perm grouping.families key
    have members := SortedMap.values_perm family.members locale
    have own : (grouping.families.get? key).toList.flatMap (fun family => family.members.values) =
        family.members.values := by
      cases found : grouping.families.get? key with
      | none => simp [family, found, Family.empty, SortedMap.values, SortedMap.empty]
      | some known => simp [family, found]
    have holder : grouping.member? (registry.slot path) = family.members.get? locale := by
      unfold member?
      cases found : grouping.families.get? (registry.slot path).1 with
      | none => simp [family, key, found, Family.empty, SortedMap.get?_empty]
      | some known => simp [family, key, locale, found, Family.get?]
    rw [own] at families
    rw [holder, ← List.append_assoc]
    exact families.trans (members.append_right _)
  have swapped : (path :: rest ++ (grouping.member? (registry.slot path)).toList).Perm
      (path :: ((grouping.member? (registry.slot path)).toList ++ rest)) :=
    List.perm_append_comm.cons path
  exact ((after.append_right _).trans swapped).trans (before.symm.cons path)

theorem collisionsIn_add_self :
    (grouping.add registry path).collisionsIn (registry.slot path) =
      grouping.collisionsIn (registry.slot path) ++
        ((grouping.member? (registry.slot path)).map fun displaced =>
          (⟨(registry.place path).key, (registry.place path).locale, path, displaced⟩ : Collision)).toList := by
  rw [collisionsIn, collisions_add, List.filter_append]
  congr 1
  refine List.filter_eq_self.mpr fun collision member => ?_
  obtain ⟨displaced, -, rfl⟩ := Option.map_eq_some_iff.mp (Option.mem_toList.mp member)
  exact decide_eq_true rfl

theorem collisionsIn_add_of_ne {slot : Slot} (other : registry.slot path ≠ slot) :
    (grouping.add registry path).collisionsIn slot = grouping.collisionsIn slot := by
  rw [collisionsIn, collisions_add, List.filter_append]
  refine (congrArg _ (List.filter_eq_nil_iff.mpr fun collision member here => other ?_)).trans
    (List.append_nil _)
  obtain ⟨displaced, -, rfl⟩ := Option.map_eq_some_iff.mp (Option.mem_toList.mp member)
  exact of_decide_eq_true here

theorem displaced_add :
    (grouping.add registry path).collisions.map (·.displaced) =
      grouping.collisions.map (·.displaced) ++ (grouping.member? (registry.slot path)).toList := by
  rw [collisions_add, List.map_append]
  cases grouping.member? (registry.slot path) <;> rfl

end Step

section Run

variable (registry : Registry) (paths : List Path)

theorem placed_of :
    (of registry paths).placed = paths.map fun path => ⟨path, registry.place path⟩ := by
  induction paths using List.reverseRecOn with
  | nil => rfl
  | append_singleton paths path ih =>
    rw [of_concat, List.map_append, ← ih]
    rfl

/-- Every file is held or was displaced, and no more often than it was found. -/
theorem perm_files_displaced : paths.Perm
    ((of registry paths).families.files ++ (of registry paths).collisions.map (·.displaced)) := by
  induction paths using List.reverseRecOn with
  | nil => exact .nil
  | append_singleton paths path ih =>
    rw [of_concat, displaced_add]
    have found : (paths ++ [path]).Perm (path :: (of registry paths).families.files ++
        (of registry paths).collisions.map (·.displaced)) :=
      (List.perm_append_singleton path paths).trans (ih.cons path)
    have step := (files_add registry (of registry paths) path).symm.append_right
      ((of registry paths).collisions.map (·.displaced))
    rw [List.append_assoc] at step
    exact (found.trans step).trans (List.perm_append_comm.append_left _)

theorem isSuccession_collisionsIn (slot : Slot) :
    IsSuccession (candidates registry paths slot) ((of registry paths).member? slot)
      ((of registry paths).collisionsIn slot) := by
  suffices both : ((of registry paths).collisionsIn slot).map (·.displaced) =
        (candidates registry paths slot).dropLast ∧
      ((of registry paths).collisionsIn slot).map (·.kept) =
        (candidates registry paths slot).tail by
    rw [member?_of]
    exact isSuccession_of both.1 both.2
  induction paths using List.reverseRecOn with
  | nil => exact ⟨rfl, rfl⟩
  | append_singleton paths path ih =>
    by_cases here : registry.slot path = slot
    · subst here
      have more : candidates registry (paths ++ [path]) (registry.slot path) =
          candidates registry paths (registry.slot path) ++ [path] := by
        simp [candidates, List.filter_append]
      have held : (of registry paths).member? (registry.slot path) =
          (candidates registry paths (registry.slot path)).getLast? := member?_of registry paths _
      rw [of_concat, collisionsIn_add_self, more, held, List.map_append, List.map_append, ih.1, ih.2]
      cases last : (candidates registry paths (registry.slot path)).getLast? with
      | none => simp [List.getLast?_eq_none_iff.mp last]
      | some displaced =>
        have some_file : candidates registry paths (registry.slot path) ≠ [] := by
          rintro none
          simp [none] at last
        refine ⟨?_, ?_⟩
        · rw [List.dropLast_concat]
          exact List.dropLast_append_getLast? _ last
        · rw [List.tail_append_of_ne_nil some_file]
          rfl
    · have same : candidates registry (paths ++ [path]) slot = candidates registry paths slot := by
        simp [candidates, List.filter_append, here]
      rw [of_concat, collisionsIn_add_of_ne _ _ _ here, same]
      exact ih

/-- Of the two files of a collision the displaced one was found first. -/
theorem displaced_before_kept {collision : Collision}
    (member : collision ∈ (of registry paths).collisions) :
    [collision.displaced, collision.kept].Sublist paths := by
  induction paths using List.reverseRecOn with
  | nil => cases member
  | append_singleton paths path ih =>
    rw [of_concat, collisions_add, List.mem_append] at member
    rcases member with earlier | last
    · exact (ih earlier).trans (List.sublist_append_left paths [path])
    · obtain ⟨displaced, held, rfl⟩ := Option.map_eq_some_iff.mp (Option.mem_toList.mp last)
      obtain ⟨found, -⟩ := mem_of_member? registry paths held
      exact (List.singleton_sublist.mpr found).append (List.Sublist.refl [path])

/-- A file that was found is held, or some later one has displaced it. -/
theorem held_or_displaced {path : Path} (found : path ∈ paths) :
    (of registry paths).member? (registry.slot path) = some path ∨
      ∃ collision ∈ (of registry paths).collisionsIn (registry.slot path),
        collision.displaced = path := by
  have candidate : path ∈ candidates registry paths (registry.slot path) :=
    List.mem_filter.mpr ⟨found, decide_eq_true rfl⟩
  have displaced := (isSuccession_collisionsIn registry paths (registry.slot path)).displaced
  cases held : (candidates registry paths (registry.slot path)).getLast? with
  | none =>
    rw [List.getLast?_eq_none_iff.mp held] at candidate
    cases candidate
  | some last =>
    rw [← List.dropLast_append_getLast? last held, List.mem_append, List.mem_singleton] at candidate
    rcases candidate with earlier | rfl
    · rw [← displaced] at earlier
      exact Or.inr (List.mem_map.mp earlier)
    · exact Or.inl ((member?_of registry paths _).trans held)

end Run

/-- Grouping lists every file with its place. Each of its families is kept under the components of its
own key, has a member, and has as the member of a locale, which is a supported one, the last file that
belongs there. Every file is a member or was displaced, and the collisions of a slot tell how it came
from the first file to the last. -/
theorem accounts_for_files (registry : Registry) (paths : List Path) :
    let grouping := of registry paths
    grouping.placed = paths.map (fun path => ⟨path, registry.place path⟩) ∧
      (∀ key family, grouping.families.get? key = some family →
        family.isEmpty = false ∧ family.key.components = key ∧
          ∀ locale, family.get? locale = (candidates registry paths (key, locale)).getLast? ∧
            (family.contains locale = true → locale ∈ registry.codes)) ∧
      paths.Perm (grouping.families.files ++ grouping.collisions.map (·.displaced)) ∧
      ∀ slot, IsSuccession (candidates registry paths slot) (grouping.member? slot)
        (grouping.collisionsIn slot) := by
  intro grouping
  refine ⟨placed_of registry paths, fun key family found => ?_, perm_files_displaced registry paths,
    isSuccession_collisionsIn registry paths⟩
  obtain ⟨same, -⟩ := key_of_get? registry paths found
  have holds (locale : Code) :
      family.get? locale = (candidates registry paths (key, locale)).getLast? := by
    rw [get?_family registry paths found, same]
    exact member?_of registry paths _
  refine ⟨?_, same, fun locale => ⟨holds locale, fun held => ?_⟩⟩
  · obtain ⟨locale, path, held⟩ := exists_member registry paths found
    have entry := (SortedMap.get?_eq_some_iff _ _ _).mp held
    exact List.isEmpty_eq_false_iff_exists_mem.mpr ⟨_, entry⟩
  · obtain ⟨path, held⟩ : ∃ path, family.get? locale = some path :=
      Option.isSome_iff_exists.mp held
    rw [get?_family registry paths found, same] at held
    obtain ⟨-, shown⟩ := mem_of_member? registry paths held
    have supported := registry.slot_locale_mem path
    rwa [shown] at supported

/-- Of three files for one slot, the first two are displaced, in order. -/
example :
    let paths := ["docs/intro.md", "docs//intro.en.md", "docs/intro.zh.md", "docs/./intro.mdx"].map
      Path.ofText
    ((of .bilingual paths).collisionsIn ([.name (Bytes.ofText "docs"), .name (Bytes.ofText "intro")],
      "en")).map (fun collision => (collision.displaced.display, collision.kept.display)) =
      [("docs/intro.md", "docs//intro.en.md"), ("docs//intro.en.md", "docs/./intro.mdx")] := by
  decide

end Grouping

end LocaleFamilies
