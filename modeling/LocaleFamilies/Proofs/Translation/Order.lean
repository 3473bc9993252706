import LocaleFamilies.Proofs.Translation.Plans

/-! The order of discovery. Files that each have a slot to themselves can be found in any order: the
families are the same, and so is what a run does for them. Only the spelling of a key shows which file of
a family was found first. -/
namespace LocaleFamilies

/-- Families with the same members, under two spellings of one key. -/
structure Family.Alike (family other : Family) : Prop where
  key : family.key.components = other.key.components
  members : family.members = other.members

namespace Plan

/-- A plan up to the spelling of its key, which the paths of the new files start with. -/
def gist (plan : Plan) : Source × List Code × List Target :=
  (plan.source, plan.createLocales, plan.update)

theorem createLocales_make (registry : Registry) (family : Family) (source : Source) :
    (make registry family source).createLocales =
      registry.codes.filter fun locale => !family.contains locale := by
  unfold make createLocales Family.contains SortedMap.contains Family.get?
  rw [List.map_filterMap, ← List.filterMap_eq_filter]
  refine List.filterMap_congr fun locale _ => ?_
  cases held : family.members.get? locale <;> simp [Option.guard, held]

end Plan

/-- A decision up to the spelling of its key. -/
def Decision.gist (decision : Decision) :
    List Component × Election × Option (Source × List Code × List Target) :=
  (decision.key.components, decision.election, decision.plan.map Plan.gist)

namespace Family.Alike

variable {family other : Family} (alike : family.Alike other)

include alike

theorem touches_eq (changes : ChangeList) : changes.touches family = changes.touches other := by
  rw [ChangeList.touches, ChangeList.touches, alike.members]

theorem gist_make_eq (registry : Registry) (source : Source) :
    (Plan.make registry family source).gist = (Plan.make registry other source).gist := by
  rw [Plan.gist, Plan.gist, Plan.createLocales_make, Plan.createLocales_make]
  simp only [Plan.make, Family.contains, Family.get?, alike.members]

theorem gist_decision_eq (registry : Registry) (changes : ChangeList) :
    (Decision.of registry changes family).gist = (Decision.of registry changes other).gist := by
  have election : Election.hold family registry.defaultCode changes =
      Election.hold other registry.defaultCode changes := by
    simp only [Election.hold, Election.withoutChanges, Family.get?, alike.members]
  simp only [Decision.gist, Decision.of, alike.key, election, Option.map_map]
  refine congrArg (fun plan => (_, _, plan)) (Option.map_congr fun source _ => ?_)
  exact alike.gist_make_eq registry source

end Family.Alike

namespace Grouping

variable {registry : Registry} {paths shuffled : List Path}

/-- There is no collision when no two files belong in one slot. -/
theorem collisions_eq_nil_iff :
    (of registry paths).collisions = [] ↔
      ∀ slot, (candidates registry paths slot).length ≤ 1 := by
  have displaced (slot : Slot) := (isSuccession_collisionsIn registry paths slot).displaced
  constructor
  · intro none slot
    have single := congrArg List.length (displaced slot)
    rw [collisionsIn, none, List.filter_nil, List.map_nil, List.length_dropLast] at single
    exact Nat.sub_eq_zero_iff_le.mp single.symm
  · intro single
    refine List.eq_nil_iff_forall_not_mem.mpr fun collision recorded => ?_
    have here : collision ∈ (of registry paths).collisionsIn collision.slot :=
      List.mem_filter.mpr ⟨recorded, decide_eq_true rfl⟩
    have size := congrArg List.length (displaced collision.slot)
    rw [List.length_map, List.length_dropLast, Nat.sub_eq_zero_of_le (single _)] at size
    rw [List.length_eq_zero_iff.mp size] at here
    cases here

section Shuffled

variable (shuffle : paths.Perm shuffled) (apart : (of registry paths).collisions = [])

include shuffle

theorem keys_of_perm : (of registry paths).families.keys = (of registry shuffled).families.keys :=
  SortedMap.keys_eq_of_mem_iff fun key => by simp only [mem_keys_iff, shuffle.mem_iff]

include apart

/-- A slot with one candidate has that candidate in any order. -/
theorem candidates_of_perm (slot : Slot) :
    candidates registry paths slot = candidates registry shuffled slot := by
  have same : (candidates registry paths slot).Perm (candidates registry shuffled slot) :=
    shuffle.filter _
  have single := collisions_eq_nil_iff.mp apart slot
  rcases Nat.le_one_iff_eq_zero_or_eq_one.mp single with none | one
  · rw [List.length_eq_zero_iff] at none
    rw [none] at same ⊢
    exact same.nil_eq
  · obtain ⟨path, alone⟩ := List.length_eq_one_iff.mp one
    rw [alone] at same ⊢
    exact (List.perm_singleton.mp same.symm).symm

theorem alike_of_perm {key : List Component} {family other : Family}
    (found : (of registry paths).families.get? key = some family)
    (found' : (of registry shuffled).families.get? key = some other) : family.Alike other := by
  have here := (key_of_get? registry paths found).1
  have there := (key_of_get? registry shuffled found').1
  refine ⟨here.trans there.symm, SortedMap.ext_get? fun locale => ?_⟩
  have holds := get?_family registry paths found locale
  have holds' := get?_family registry shuffled found' locale
  rw [here, member?_of] at holds
  rw [there, member?_of] at holds'
  have same := candidates_of_perm shuffle apart (key, locale)
  exact holds.trans ((congrArg List.getLast? same).trans holds'.symm)

theorem exists_alike_of_perm {key : List Component} {family : Family}
    (found : (of registry paths).families.get? key = some family) :
    ∃ other, (of registry shuffled).families.get? key = some other ∧ family.Alike other := by
  have listed : key ∈ (of registry paths).families.keys :=
    (SortedMap.mem_keys_iff _ _).mpr ⟨family, found⟩
  rw [keys_of_perm shuffle] at listed
  obtain ⟨other, found'⟩ := (SortedMap.mem_keys_iff _ _).mp listed
  exact ⟨other, found', alike_of_perm shuffle apart found found'⟩

theorem exists_alike_of_perm_affected {changes : ChangeList} {key : List Component} {family : Family}
    (found : (changes.affected (of registry paths).families).get? key = some family) :
    ∃ other, (changes.affected (of registry shuffled).families).get? key = some other ∧
      family.Alike other := by
  obtain ⟨found, selected⟩ := (changes.get?_affected_iff _ _ _).mp found
  obtain ⟨other, found', alike⟩ := exists_alike_of_perm shuffle apart found
  rw [alike.touches_eq changes] at selected
  exact ⟨other, (changes.get?_affected_iff _ _ _).mpr ⟨found', selected⟩, alike⟩

/-- Where no file displaces another, the order in which files are found matters to the spelling of keys
only. In any order there is no collision, there are the same families with the same members, the same
families are affected, and for each family the same source is elected, by the same rule, the same locales
are to be created and the same files to be updated. -/
theorem order_matters_only_in_collisions (changes : ChangeList) :
    let grouping := of registry paths
    let other := of registry shuffled
    other.collisions = [] ∧
      other.families.keys = grouping.families.keys ∧
      (changes.affected other.families).keys = (changes.affected grouping.families).keys ∧
      (∀ key family, grouping.families.get? key = some family →
        ∃ same, other.families.get? key = some same ∧ same.members = family.members ∧
          (Decision.of registry changes same).gist = (Decision.of registry changes family).gist) ∧
      (other.decisions registry changes).map Decision.gist =
        (grouping.decisions registry changes).map Decision.gist := by
  intro grouping other
  have apart' : other.collisions = [] := by
    refine collisions_eq_nil_iff.mpr fun slot => ?_
    rw [← candidates_of_perm shuffle apart]
    exact collisions_eq_nil_iff.mp apart slot
  have affected (key : List Component) :
      ((changes.affected other.families).get? key).map
          (fun family => (Decision.of registry changes family).gist) =
        ((changes.affected grouping.families).get? key).map
          fun family => (Decision.of registry changes family).gist := by
    cases found : (changes.affected grouping.families).get? key with
    | some family =>
      obtain ⟨same, found', alike⟩ := exists_alike_of_perm_affected shuffle apart found
      rw [found', Option.map_some, Option.map_some, alike.gist_decision_eq]
    | none =>
      cases found' : (changes.affected other.families).get? key with
      | none => rfl
      | some same =>
        obtain ⟨family, back, -⟩ := exists_alike_of_perm_affected shuffle.symm apart' found'
        rw [found] at back
        cases back
  refine ⟨apart', (keys_of_perm shuffle).symm, ?_, fun key family found => ?_, ?_⟩
  · refine SortedMap.keys_eq_of_mem_iff fun key => ?_
    have both := congrArg Option.isSome (affected key)
    rw [Option.isSome_map, Option.isSome_map] at both
    rw [← SortedMap.contains_iff, ← SortedMap.contains_iff, SortedMap.contains, SortedMap.contains,
      both]
  · obtain ⟨same, found', alike⟩ := exists_alike_of_perm shuffle apart found
    exact ⟨same, found', alike.members.symm, (alike.gist_decision_eq registry changes).symm⟩
  · simpa only [decisions, FamilyMap.families, List.map_map, Function.comp_def] using
      SortedMap.map_values_eq affected

end Shuffled

/-- One key is spelled `docs//api/guide` when the translation is found first, and nothing else changes. -/
theorem order_matters_only_in_collisions_guide :
    let paths := ["docs/api/guide.md", "docs//api/guide.zh.md", "docs/intro.zh.md"].map Path.ofText
    let shuffled := ["docs//api/guide.zh.md", "docs/intro.zh.md", "docs/api/guide.md"].map Path.ofText
    let changes := ChangeList.ofPaths [Path.ofText "docs/api/guide.zh.md"]
    paths.Perm shuffled ∧ (of .bilingual paths).collisions = [] ∧
      (of .bilingual shuffled).families ≠ (of .bilingual paths).families ∧
      (of .bilingual shuffled).collisions = [] ∧
      ((of .bilingual paths).decisions .bilingual changes).length = 1 ∧
      ((of .bilingual shuffled).decisions .bilingual changes).map Decision.gist =
        ((of .bilingual paths).decisions .bilingual changes).map Decision.gist := by
  intro paths shuffled changes
  have shuffle : paths.Perm shuffled := by decide
  have apart : (of .bilingual paths).collisions = [] := by decide
  have spelled : (of .bilingual shuffled).families ≠ (of .bilingual paths).families := by decide
  have one : ((of .bilingual paths).decisions .bilingual changes).length = 1 := by decide
  obtain ⟨apart', -, -, -, same⟩ := order_matters_only_in_collisions shuffle apart changes
  exact ⟨shuffle, apart, spelled, apart', one, same⟩

end Grouping

end LocaleFamilies
