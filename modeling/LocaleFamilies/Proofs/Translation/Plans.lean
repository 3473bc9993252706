import LocaleFamilies.Proofs.Translation.Election
import LocaleFamilies.Translation.Pass
import Mathlib.Data.List.Nodup

/-! The plans of a grouping: each is made for a family of the grouping from a member of it, and takes
up every supported locale once. So the slots that the plans of a run write to are pairwise different,
and none of them is the slot of a source. -/
namespace LocaleFamilies

namespace Plan

def slotOf (plan : Plan) (target : Target) : Slot := (plan.key.components, target.locale)

def targets (plan : Plan) : List Target := plan.create ++ plan.update

variable (registry : Registry) (family : Family) (source : Source)

theorem mem_create_iff (target : Target) :
    target ∈ (make registry family source).create ↔
      target.locale ∈ registry.codes ∧ family.get? target.locale = none ∧
        target.path = destination registry family.key source.path target.locale := by
  simp only [make, List.mem_filterMap]
  constructor
  · rintro ⟨locale, supported, found⟩
    cases held : family.get? locale with
    | none =>
      simp only [held, Option.some.injEq] at found
      subst found
      exact ⟨supported, held, rfl⟩
    | some path => simp [held] at found
  · rintro ⟨supported, missing, placed⟩
    refine ⟨target.locale, supported, ?_⟩
    rw [missing]
    simp [← placed]

theorem mem_update_iff (target : Target) :
    target ∈ (make registry family source).update ↔
      target.locale ∈ registry.codes ∧ family.get? target.locale = some target.path ∧
        target.locale ≠ source.locale := by
  simp only [make, List.mem_filterMap]
  constructor
  · rintro ⟨locale, supported, found⟩
    cases held : family.get? locale with
    | none => simp [held] at found
    | some path =>
      simp only [held] at found
      split at found
      · cases found
      · rename_i other
        simp only [Option.some.injEq] at found
        subst found
        exact ⟨supported, held, other⟩
  · rintro ⟨supported, held, other⟩
    exact ⟨target.locale, supported, by simp [held, other]⟩

private theorem nodup_locales {locales : List Code} (distinct : locales.Nodup)
    (targetOf : Code → Option Target)
    (own : ∀ locale target, targetOf locale = some target → target.locale = locale) :
    ((locales.filterMap targetOf).map (·.locale)).Nodup := by
  rw [List.Nodup, List.pairwise_map, List.pairwise_filterMap]
  refine distinct.imp fun apart first here second there same => apart ?_
  rw [← own _ _ here, ← own _ _ there, same]

theorem nodup_target_locales :
    ((make registry family source).targets.map (·.locale)).Nodup := by
  have codes : registry.codes.Nodup := SortedMap.nodup_keys _
  rw [targets, List.map_append, List.nodup_append]
  refine ⟨nodup_locales codes _ ?_, nodup_locales codes _ ?_, ?_⟩
  · intro locale target found
    split at found <;> simp at found
    rw [← found]
  · intro locale target found
    split at found <;> simp at found
    rw [← found.2]
  · intro locale created other updated same
    obtain ⟨target, member, rfl⟩ := List.mem_map.mp created
    obtain ⟨held, member', rfl⟩ := List.mem_map.mp updated
    have missing := ((mem_create_iff registry family source target).mp member).2.1
    have present := ((mem_update_iff registry family source held).mp member').2.1
    rw [same, present] at missing
    cases missing

theorem nodup_createLocales : (make registry family source).createLocales.Nodup := by
  have all := nodup_target_locales registry family source
  rw [targets, List.map_append] at all
  exact (List.nodup_append.mp all).1

theorem source_locale_not_written (elected : family.get? source.locale = some source.path)
    {target : Target} (member : target ∈ (make registry family source).targets) :
    target.locale ≠ source.locale := by
  rcases List.mem_append.mp member with created | updated
  · intro same
    have missing := ((mem_create_iff registry family source target).mp created).2.1
    rw [same, elected] at missing
    cases missing
  · exact ((mem_update_iff registry family source target).mp updated).2.2

end Plan

namespace Grouping

def plans (grouping : Grouping) (registry : Registry) (changes : ChangeList) : List Plan :=
  (grouping.decisions registry changes).filterMap (·.plan)

variable {registry : Registry} {paths : List Path} {changes : ChangeList} {plan : Plan}

theorem mem_affected {families : FamilyMap} {entry : List Component × Family}
    (member : entry ∈ (changes.affected families).entries) : entry ∈ families.entries :=
  ((changes.mem_affected_iff families entry).mp member).1

/-- A plan is made for a family of the grouping, from a source elected in it. -/
theorem exists_family_of_mem_plans
    (member : plan ∈ (of registry paths).plans registry changes) :
    ∃ family source, (of registry paths).families.get? plan.key.components = some family ∧
      (Election.hold family registry.defaultCode changes).source? = some source ∧
      plan = .make registry family source := by
  obtain ⟨decision, decided, planned⟩ := List.mem_filterMap.mp member
  unfold decisions FamilyMap.families SortedMap.values at decided
  rw [List.map_map, List.mem_map] at decided
  obtain ⟨⟨key, family⟩, entry, rfl⟩ := decided
  have found := (SortedMap.get?_eq_some_iff _ _ _).mpr (mem_affected entry)
  obtain ⟨source, elected, rfl⟩ := Option.map_eq_some_iff.mp planned
  refine ⟨family, source, ?_, elected, rfl⟩
  show (of registry paths).families.get? family.key.components = some family
  rw [(key_of_get? registry paths found).1, found]

/-- A source elected in a family is one of the files, and lies in the slot that it was elected for. -/
theorem source_of_family {family : Family} {source : Source}
    (member : family ∈ (of registry paths).families.families)
    (elected : (Election.hold family registry.defaultCode changes).source? = some source) :
    source.path ∈ paths ∧ registry.slot source.path = (family.key.components, source.locale) := by
  obtain ⟨key, found⟩ := get?_of_mem_families registry paths member
  have held := Election.source?_hold elected
  rw [get?_family registry paths found] at held
  exact mem_of_member? registry paths held

/-- The source of a plan is one of the files, and is not written under the plan. -/
theorem source_of_plan (planned : plan ∈ (of registry paths).plans registry changes) :
    plan.source.path ∈ paths ∧
      registry.slot plan.source.path = (plan.key.components, plan.source.locale) ∧
      ∀ target ∈ plan.targets, target.locale ≠ plan.source.locale := by
  obtain ⟨family, source, found, elected, rfl⟩ := exists_family_of_mem_plans planned
  obtain ⟨listed, shown⟩ := source_of_family (mem_families_of_get? registry paths found) elected
  exact ⟨listed, shown, fun _ member =>
    Plan.source_locale_not_written registry family source (Election.source?_hold elected) member⟩

theorem member?_of_mem_create (planned : plan ∈ (of registry paths).plans registry changes)
    {target : Target} (created : target ∈ plan.create) :
    (of registry paths).member? (plan.slotOf target) = none := by
  obtain ⟨family, source, found, -, rfl⟩ := exists_family_of_mem_plans planned
  obtain ⟨-, missing, -⟩ := (Plan.mem_create_iff registry family source target).mp created
  rw [get?_family registry paths found] at missing
  exact missing

/-- A family has one plan. -/
theorem plan_eq_of_key {other : Plan} (planned : plan ∈ (of registry paths).plans registry changes)
    (planned' : other ∈ (of registry paths).plans registry changes)
    (same : plan.key.components = other.key.components) : plan = other := by
  obtain ⟨family, source, found, elected, rfl⟩ := exists_family_of_mem_plans planned
  obtain ⟨family', source', found', elected', rfl⟩ := exists_family_of_mem_plans planned'
  rw [same, found', Option.some.injEq] at found
  subst found
  rw [elected, Option.some.injEq] at elected'
  rw [elected']

theorem exists_source {family : Family}
    (member : family ∈ (of registry paths).families.families) :
    ∃ source, (Election.hold family registry.defaultCode .fullScan).source? = some source := by
  obtain ⟨source, strategy, elected⟩ := (goesByCodes_of_mem member).exists_elected
  exact ⟨source, congrArg Election.source? elected⟩

theorem mem_plans_fullScan {family : Family} {source : Source}
    (member : family ∈ (of registry paths).families.families)
    (elected : (Election.hold family registry.defaultCode .fullScan).source? = some source) :
    Plan.make registry family source ∈ (of registry paths).plans registry .fullScan := by
  refine List.mem_filterMap.mpr ⟨.of registry .fullScan family, List.mem_map_of_mem member, ?_⟩
  simp [Decision.of, elected]

theorem pairwise_plan_keys :
    ((of registry paths).plans registry changes).Pairwise
      fun first second => first.key.components ≠ second.key.components := by
  unfold plans decisions FamilyMap.families SortedMap.values
  rw [List.map_map, List.filterMap_map, List.pairwise_filterMap]
  refine (changes.affected (of registry paths).families).pairwise_key_ne.imp_of_mem ?_
  intro first second here there apart plan planned plan' planned'
  have keyed {entry : List Component × Family} {plan : Plan}
      (member : entry ∈ (changes.affected (of registry paths).families).entries)
      (planned : (Decision.of registry changes entry.2).plan = some plan) :
      plan.key.components = entry.1 := by
    obtain ⟨source, -, rfl⟩ := Option.map_eq_some_iff.mp planned
    exact (key_of_get? registry paths
      ((SortedMap.get?_eq_some_iff _ entry.1 entry.2).mpr (mem_affected member))).1
  rw [keyed here planned, keyed there planned']
  exact apart

/-- The slots that a run writes to are pairwise different. -/
theorem pairwise_target_slots :
    (((of registry paths).plans registry changes).flatMap fun plan =>
        plan.targets.map fun target => (plan, target)).Pairwise
      fun first second => first.1.slotOf first.2 ≠ second.1.slotOf second.2 := by
  rw [List.pairwise_flatMap]
  constructor
  · intro plan member
    obtain ⟨family, source, -, -, rfl⟩ := exists_family_of_mem_plans member
    have distinct := Plan.nodup_target_locales registry family source
    rw [List.Nodup, List.pairwise_map] at distinct
    rw [List.pairwise_map]
    exact distinct.imp fun apart same => apart (congrArg Prod.snd same)
  · refine pairwise_plan_keys.imp fun apart first here second there => ?_
    obtain ⟨target, -, rfl⟩ := List.mem_map.mp here
    obtain ⟨other, -, rfl⟩ := List.mem_map.mp there
    exact fun same => apart (congrArg Prod.fst same)

end Grouping

end LocaleFamilies
