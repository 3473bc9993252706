import LocaleFamilies.Proofs.Translation.Destination
import Mathlib.Data.List.Flatten

/-! A full pass converges. The files that it creates find empty slots of the families that are there,
each its own, so wherever they are discovered among the others they open no family and displace
nothing, and a second pass finds every slot taken. -/
namespace LocaleFamilies.Grouping

variable {registry : Registry} {paths merged created : List Path}

def creations (grouping : Grouping) (registry : Registry) : List Path :=
  (grouping.plans registry .fullScan).flatMap fun plan => plan.create.map (·.path)

/-- Files that are alone in their slots cause no collision. -/
theorem collisions_of_filter (keep : Slot → Bool)
    (alone : ((paths.filter fun path => !keep (registry.slot path)).map registry.slot).Nodup) :
    (of registry paths).collisions =
      (of registry (paths.filter fun path => keep (registry.slot path))).collisions := by
  induction paths using List.reverseRecOn with
  | nil => rfl
  | append_singleton paths path ih =>
    rw [List.filter_append, List.map_append, List.nodup_append] at alone
    have start := ih alone.1
    rw [List.filter_append, of_concat, collisions_add, start]
    by_cases kept : keep (registry.slot path) = true
    · have same : (of registry paths).member? (registry.slot path) =
          (of registry (paths.filter fun path => keep (registry.slot path))).member?
            (registry.slot path) := by
        rw [member?_of, member?_of, List.filter_filter]
        congr 1
        refine List.filter_congr fun other _ => ?_
        by_cases here : registry.slot other = registry.slot path <;> simp [here, kept]
      have own : ([path].filter fun path => keep (registry.slot path)) = [path] := by simp [kept]
      rw [same, own, of_concat, collisions_add]
    · have free : (of registry paths).member? (registry.slot path) = none := by
        by_contra taken
        obtain ⟨other, member, same⟩ := (member?_ne_none_iff registry paths _).mp taken
        refine alone.2.2 (registry.slot path) ?_ (registry.slot path) ?_ rfl
        · exact List.mem_map.mpr ⟨other, List.mem_filter.mpr ⟨member, by simpa [same] using kept⟩, same⟩
        · exact List.mem_map_of_mem (List.mem_filter.mpr ⟨List.mem_singleton_self path, by simpa using kept⟩)
      simp [free, kept]

section Merge

variable {α : Type*} {first second whole : List α}

/-- A merge in which one list keeps its order shows that list again when the other one is left out. -/
theorem filter_merge (kept : first.Sublist whole) (merged : whole.Perm (first ++ second))
    (keep : α → Bool) (here : ∀ a ∈ first, keep a = true) (there : ∀ a ∈ second, ¬ keep a = true) :
    whole.filter keep = first := by
  have shuffled := merged.filter keep
  rw [List.filter_append, List.filter_eq_self.mpr here, List.filter_eq_nil_iff.mpr there,
    List.append_nil] at shuffled
  have inside := kept.filter keep
  rw [List.filter_eq_self.mpr here] at inside
  exact (inside.eq_of_length shuffled.length_eq.symm).symm

end Merge

/-- Files that find empty slots, each its own, cause no collision wherever they are put in. -/
theorem collisions_merge (kept : paths.Sublist merged) (whole : merged.Perm (paths ++ created))
    (apart : (created.map registry.slot).Nodup)
    (empty : ∀ path ∈ created, registry.slot path ∉ paths.map registry.slot) :
    (of registry merged).collisions = (of registry paths).collisions := by
  let keep (slot : Slot) : Bool := slot ∈ paths.map registry.slot
  have here : ∀ path ∈ paths, keep (registry.slot path) = true := fun path member =>
    decide_eq_true (List.mem_map_of_mem member)
  have there : ∀ path ∈ created, ¬ keep (registry.slot path) = true := fun path member taken =>
    empty path member (of_decide_eq_true taken)
  have others : (merged.filter fun path => !keep (registry.slot path)).Perm created := by
    have shuffled := whole.filter fun path => !keep (registry.slot path)
    have none : (paths.filter fun path => !keep (registry.slot path)) = [] :=
      List.filter_eq_nil_iff.mpr fun path member => by simp [here path member]
    have all : (created.filter fun path => !keep (registry.slot path)) = created :=
      List.filter_eq_self.mpr fun path member => by simpa using there path member
    rwa [List.filter_append, none, all, List.nil_append] at shuffled
  rw [collisions_of_filter keep ((others.map registry.slot).nodup_iff.mpr apart),
    filter_merge kept whole _ here there]

/-- Where the default locale would get a file without a marker, the last name of the key shows no other
locale. -/
def IsUnambiguous (grouping : Grouping) (registry : Registry) : Prop :=
  ∀ family ∈ grouping.families.families, family.get? registry.defaultCode = none →
    ∀ source, (Election.hold family registry.defaultCode .fullScan).source? = some source →
      ¬ source.path.IsBare registry →
        ∀ name, family.key.fileName? = some name → ¬ registry.ShowsLocale name

instance (grouping : Grouping) (registry : Registry) :
    Decidable (grouping.IsUnambiguous registry) :=
  inferInstanceAs (Decidable (∀ family ∈ grouping.families.families,
    family.get? registry.defaultCode = none →
      ∀ source ∈ (Election.hold family registry.defaultCode .fullScan).source?,
        ¬ source.path.IsBare registry →
          ∀ name ∈ family.key.fileName?, ¬ registry.ShowsLocale name))

section Creations

variable (plain : registry.HasPlainCodes) (documents : ∀ path ∈ paths, path.IsDocument)
  (unambiguous : (of registry paths).IsUnambiguous registry)

include plain documents unambiguous

theorem slot_creation {plan : Plan} (planned : plan ∈ (of registry paths).plans registry .fullScan)
    {target : Target} (created : target ∈ plan.create) :
    registry.slot target.path = plan.slotOf target := by
  obtain ⟨family, source, found, elected, rfl⟩ := exists_family_of_mem_plans planned
  have member := mem_families_of_get? registry paths found
  obtain ⟨-, missing, -⟩ := (Plan.mem_create_iff registry family source target).mp created
  refine (Plan.slot_create_iff plain documents member elected created).mpr ?_
  by_cases bare : source.path.IsBare registry
  · exact Or.inl bare
  by_cases other : target.locale ≠ registry.defaultCode
  · exact Or.inr (Or.inl other)
  rw [Decidable.not_not] at other
  rw [other] at missing
  exact Or.inr (Or.inr (unambiguous family member missing source elected bare))

theorem exists_of_mem_creations {path : Path}
    (member : path ∈ (of registry paths).creations registry) :
    ∃ plan ∈ (of registry paths).plans registry .fullScan, ∃ target ∈ plan.create,
      target.path = path ∧ registry.slot path = plan.slotOf target := by
  obtain ⟨plan, planned, placed⟩ := List.mem_flatMap.mp member
  obtain ⟨target, created, rfl⟩ := List.mem_map.mp placed
  exact ⟨plan, planned, target, created, rfl,
    slot_creation plain documents unambiguous planned created⟩

theorem nodup_creation_slots :
    (((of registry paths).creations registry).map registry.slot).Nodup := by
  have slots : ((of registry paths).creations registry).map registry.slot =
      ((of registry paths).plans registry .fullScan).flatMap fun plan =>
        plan.create.map plan.slotOf := by
    rw [creations, List.map_flatMap]
    refine List.flatMap_congr fun plan planned => ?_
    rw [List.map_map]
    exact List.map_congr_left fun target created =>
      slot_creation plain documents unambiguous planned created
  have paired : (((of registry paths).plans registry .fullScan).flatMap fun plan =>
      plan.create.map plan.slotOf) =
      (((of registry paths).plans registry .fullScan).flatMap fun plan =>
        plan.create.map fun target => (plan, target)).map fun write => write.1.slotOf write.2 := by
    rw [List.map_flatMap]
    simp only [List.map_map, Function.comp_def]
  have fewer : (((of registry paths).plans registry .fullScan).flatMap fun plan =>
      plan.create.map fun target => (plan, target)).Sublist
      (((of registry paths).plans registry .fullScan).flatMap fun plan =>
        plan.targets.map fun target => (plan, target)) :=
    List.Sublist.flatMap_right _ fun plan _ => (List.sublist_append_left _ _).map _
  rw [slots, paired, List.Nodup, List.pairwise_map]
  exact pairwise_target_slots.sublist fewer

theorem creation_slot_not_mem {path : Path}
    (member : path ∈ (of registry paths).creations registry) :
    registry.slot path ∉ paths.map registry.slot := by
  obtain ⟨plan, planned, target, created, rfl, shown⟩ :=
    exists_of_mem_creations plain documents unambiguous member
  intro taken
  obtain ⟨other, listed, same⟩ := List.mem_map.mp taken
  have held := (member?_ne_none_iff registry paths _).mpr ⟨other, listed, same⟩
  rw [shown] at held
  exact held (member?_of_mem_create planned created)

variable (kept : paths.Sublist merged)
  (whole : merged.Perm (paths ++ (of registry paths).creations registry))

include kept whole

/-- The new files are files of the families that are there. -/
theorem keys_merge : (of registry merged).families.keys = (of registry paths).families.keys := by
  apply SortedMap.keys_eq_of_mem_iff
  intro key
  rw [mem_keys_iff, mem_keys_iff]
  constructor
  · rintro ⟨path, member, rfl⟩
    rcases List.mem_append.mp (whole.mem_iff.mp member) with old | new
    · exact ⟨path, old, rfl⟩
    · obtain ⟨plan, planned, target, -, -, shown⟩ :=
        exists_of_mem_creations plain documents unambiguous new
      obtain ⟨listed, slot, -⟩ := source_of_plan planned
      exact ⟨plan.source.path, listed, by rw [slot, shown]; rfl⟩
  · rintro ⟨path, member, rfl⟩
    exact ⟨path, kept.subset member, rfl⟩

theorem member?_merge {key : List Component} (open_family : key ∈ (of registry merged).families.keys)
    {code : Code} (supported : code ∈ registry.codes) :
    (of registry merged).member? (key, code) ≠ none := by
  rw [keys_merge plain documents unambiguous kept whole, SortedMap.mem_keys_iff] at open_family
  obtain ⟨family, found⟩ := open_family
  have member := mem_families_of_get? registry paths found
  obtain ⟨same, -⟩ := key_of_get? registry paths found
  subst same
  rw [member?_ne_none_iff]
  cases held : family.get? code with
  | some path =>
    rw [get?_family registry paths found] at held
    obtain ⟨listed, slot⟩ := mem_of_member? registry paths held
    exact ⟨path, kept.subset listed, slot⟩
  | none =>
    obtain ⟨source, elected⟩ := exists_source member
    have planned := mem_plans_fullScan member elected
    have created : ⟨code, Plan.destination registry family.key source.path code⟩ ∈
        (Plan.make registry family source).create :=
      (Plan.mem_create_iff _ _ _ _).mpr ⟨supported, held, rfl⟩
    have new : Plan.destination registry family.key source.path code ∈
        (of registry paths).creations registry :=
      List.mem_flatMap.mpr ⟨_, planned, List.mem_map.mpr ⟨_, created, rfl⟩⟩
    have slot := slot_creation plain documents unambiguous planned created
    exact ⟨_, whole.mem_iff.mpr (List.mem_append_right _ new), slot⟩

/-- A second full pass, over the files that were there and those that the first pass creates in any
order of discovery that keeps the old one, finds the same families and collisions, every supported
locale in every family, and nothing to create. -/
theorem full_pass_converges :
    (of registry merged).families.keys = (of registry paths).families.keys ∧
      (of registry merged).collisions = (of registry paths).collisions ∧
      (∀ family ∈ (of registry merged).families.families, ∀ code ∈ registry.codes,
        family.contains code = true) ∧
      ∀ plan ∈ (of registry merged).plans registry .fullScan, plan.create = [] := by
  have taken {key : List Component} {family : Family}
      (found : (of registry merged).families.get? key = some family) {code : Code}
      (supported : code ∈ registry.codes) : family.get? code ≠ none := by
    have open_family := (SortedMap.mem_keys_iff _ key).mpr ⟨family, found⟩
    rw [get?_family registry merged found, (key_of_get? registry merged found).1]
    exact member?_merge plain documents unambiguous kept whole open_family supported
  refine ⟨keys_merge plain documents unambiguous kept whole,
    collisions_merge kept whole (nodup_creation_slots plain documents unambiguous)
      fun _ => creation_slot_not_mem plain documents unambiguous, ?_, ?_⟩
  · intro family member code supported
    obtain ⟨key, found⟩ := get?_of_mem_families registry merged member
    exact Option.isSome_iff_ne_none.mpr (taken found supported)
  · intro plan planned
    obtain ⟨family, source, found, -, rfl⟩ := exists_family_of_mem_plans planned
    rw [List.eq_nil_iff_forall_not_mem]
    intro target created
    obtain ⟨supported, missing, -⟩ := (Plan.mem_create_iff _ _ _ _).mp created
    exact taken found supported missing

end Creations

/-- The new files of `docs` and `docs/intro` may be discovered around the old ones. -/
theorem full_pass_converges_intro :
    let paths := ["docs/en.md", "docs/intro.zh.md"].map Path.ofText
    let merged := ["docs/intro.md", "docs/en.md", "docs/zh.md", "docs/intro.zh.md"].map Path.ofText
    (of .bilingual merged).families.keys = (of .bilingual paths).families.keys ∧
      ∀ plan ∈ (of .bilingual merged).plans .bilingual .fullScan, plan.create = [] := by
  intro paths merged
  have unambiguous : (of .bilingual paths).IsUnambiguous .bilingual := by decide
  have kept : paths.Sublist merged := by decide
  have whole : merged.Perm (paths ++ (of .bilingual paths).creations .bilingual) := by decide
  have converges := full_pass_converges (by decide) (by decide) unambiguous kept whole
  exact ⟨converges.1, converges.2.2.2⟩

end LocaleFamilies.Grouping
