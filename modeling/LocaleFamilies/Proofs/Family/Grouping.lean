import LocaleFamilies.Family.Grouping
import LocaleFamilies.Proofs.Family.Slot
import Mathlib.Data.List.Induction

/-! What grouping does to the slots. A slot holds the last file that was placed in it; a family
exists exactly when a file was placed in it, under the key of the first such file; and a collision
is recorded when a file finds its slot taken. -/
namespace LocaleFamilies.Grouping

def member? (grouping : Grouping) (slot : Slot) : Option Path :=
  (grouping.families.get? slot.1).bind fun family => family.get? slot.2

variable (registry : Registry)

theorem of_concat (paths : List Path) (path : Path) :
    of registry (paths ++ [path]) = (of registry paths).add registry path := by
  simp [of, List.foldl_append]

section Step

variable (grouping : Grouping) (path : Path)

theorem get?_add_self :
    (grouping.add registry path).families.get? (registry.slot path).1 =
      some (((grouping.families.get? (registry.slot path).1).getD
        (.empty (registry.place path).key)).insert (registry.slot path).2 path) :=
  SortedMap.get?_insert_self _ _ _

theorem get?_add_of_ne {key : List Component} (other : key ≠ (registry.slot path).1) :
    (grouping.add registry path).families.get? key = grouping.families.get? key :=
  SortedMap.get?_insert_of_ne _ _ other

theorem member?_add (slot : Slot) :
    (grouping.add registry path).member? slot =
      if registry.slot path = slot then some path else grouping.member? slot := by
  obtain ⟨key, locale⟩ := slot
  unfold member?
  by_cases here : key = (registry.slot path).1
  · subst here
    rw [get?_add_self]
    simp only [Option.bind_some, Family.get?, Family.insert]
    by_cases same : locale = (registry.slot path).2
    · subst same
      simp [SortedMap.get?_insert_self]
    · rw [SortedMap.get?_insert_of_ne _ _ same, if_neg (fun taken => same (by rw [taken]))]
      cases grouping.families.get? (registry.slot path).1 <;> rfl
  · rw [get?_add_of_ne _ _ _ here, if_neg (fun taken => here (by rw [taken]))]

theorem collisions_add :
    (grouping.add registry path).collisions = grouping.collisions ++
      ((grouping.member? (registry.slot path)).map fun displaced =>
        (⟨(registry.place path).key, (registry.place path).locale, path, displaced⟩ : Collision)).toList := by
  unfold add member? Registry.slot
  simp only
  cases grouping.families.get? (registry.place path).key.components with
  | none => simp [Family.get?, Family.empty, SortedMap.get?_empty]
  | some family =>
    simp only [Option.getD_some, Option.bind_some]
    cases family.get? (registry.place path).locale <;> simp

end Step

section Run

variable (paths : List Path)

/-- The last file placed in a slot is the one that it holds. -/
theorem member?_of (slot : Slot) :
    (of registry paths).member? slot =
      (paths.filter fun path => registry.slot path = slot).getLast? := by
  induction paths using List.reverseRecOn with
  | nil => rfl
  | append_singleton paths path ih =>
    rw [of_concat, member?_add, ih, List.filter_append]
    by_cases here : registry.slot path = slot <;> simp [here]

theorem mem_of_member? {slot : Slot} {path : Path}
    (held : (of registry paths).member? slot = some path) :
    path ∈ paths ∧ registry.slot path = slot := by
  rw [member?_of] at held
  simpa using List.mem_of_getLast? held

theorem member?_ne_none_iff (slot : Slot) :
    (of registry paths).member? slot ≠ none ↔ ∃ path ∈ paths, registry.slot path = slot := by
  rw [member?_of, Ne, List.getLast?_eq_none_iff]
  simp [List.filter_eq_nil_iff]

/-- A family is kept under the components of its key, which is the key of a file placed in it. -/
theorem key_of_get? {key : List Component} {family : Family}
    (found : (of registry paths).families.get? key = some family) :
    family.key.components = key ∧ ∃ path ∈ paths, (registry.place path).key = family.key := by
  induction paths using List.reverseRecOn generalizing family with
  | nil => cases found
  | append_singleton paths path ih =>
    rw [of_concat] at found
    by_cases here : key = (registry.slot path).1
    · subst here
      rw [get?_add_self, Option.some.injEq] at found
      subst found
      cases before : (of registry paths).families.get? (registry.slot path).1 with
      | none => exact ⟨rfl, path, by simp, rfl⟩
      | some family =>
        obtain ⟨same, first, member, keyed⟩ := ih before
        exact ⟨same, first, by simp [member], keyed⟩
    · rw [get?_add_of_ne _ _ _ here] at found
      obtain ⟨same, first, member, keyed⟩ := ih found
      exact ⟨same, first, by simp [member], keyed⟩

theorem get?_of_mem_families {family : Family}
    (member : family ∈ (of registry paths).families.families) :
    ∃ key, (of registry paths).families.get? key = some family := by
  obtain ⟨⟨key, _⟩, entry, rfl⟩ := List.mem_map.mp member
  exact ⟨key, (SortedMap.get?_eq_some_iff _ _ _).mpr entry⟩

theorem mem_families_of_get? {key : List Component} {family : Family}
    (found : (of registry paths).families.get? key = some family) :
    family ∈ (of registry paths).families.families :=
  List.mem_map.mpr ⟨(key, family), (SortedMap.get?_eq_some_iff _ _ _).mp found, rfl⟩

theorem mem_keys_iff (key : List Component) :
    key ∈ (of registry paths).families.keys ↔ ∃ path ∈ paths, (registry.slot path).1 = key := by
  rw [SortedMap.mem_keys_iff]
  induction paths using List.reverseRecOn with
  | nil => simp [of, empty, SortedMap.get?_empty]
  | append_singleton paths path ih =>
    rw [of_concat]
    by_cases here : key = (registry.slot path).1
    · subst here
      rw [get?_add_self]
      simp only [Option.some.injEq, exists_eq', true_iff]
      exact ⟨path, by simp, rfl⟩
    · rw [get?_add_of_ne _ _ _ here, ih]
      simp [Ne.symm here]

theorem get?_family {key : List Component} {family : Family}
    (found : (of registry paths).families.get? key = some family) (locale : Code) :
    family.get? locale = (of registry paths).member? (family.key.components, locale) := by
  unfold member?
  rw [(key_of_get? registry paths found).1, found]
  rfl

/-- A family has a member, since it was opened for one. -/
theorem exists_member {key : List Component} {family : Family}
    (found : (of registry paths).families.get? key = some family) :
    ∃ locale path, family.get? locale = some path := by
  obtain ⟨-, path, listed, keyed⟩ := key_of_get? registry paths found
  have taken := (member?_ne_none_iff registry paths (registry.slot path)).mpr ⟨path, listed, rfl⟩
  have lies : registry.slot path = (family.key.components, (registry.place path).locale) := by
    rw [← keyed]
    rfl
  rw [lies, ← get?_family registry paths found] at taken
  obtain ⟨held, here⟩ := Option.ne_none_iff_exists'.mp taken
  exact ⟨_, held, here⟩

end Run

end LocaleFamilies.Grouping
