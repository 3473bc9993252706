import LocaleFamilies.Proofs.Translation.Plans

/-! A plan deals with every supported locale once: one is the source, and each of the others is either
missing and created or held and brought up to date. What makes this so lies before the plan: files are
placed under supported locales only, and a source is elected among the members of its own family. -/
namespace LocaleFamilies

namespace Registry

def multilingual : Registry :=
  ⟨"en", .ofList [("en", "English"), ("ja", "Japanese"), ("ko", "Korean"), ("zh", "Chinese")],
    by decide⟩

end Registry

namespace Plan

variable {registry : Registry} {family : Family} {source : Source}

/-- The locales of a plan whose source is a member in a supported locale are the supported ones. -/
theorem locales_perm (held : family.get? source.locale = some source.path)
    (supported : source.locale ∈ registry.codes) :
    let plan := make registry family source
    (plan.createLocales ++ plan.updateLocales ++ [plan.source.locale]).Perm registry.codes := by
  intro plan
  have split : plan.createLocales ++ plan.updateLocales = plan.targets.map (·.locale) := by
    rw [targets, List.map_append]
    rfl
  have distinct : (plan.targets.map (·.locale) ++ [source.locale]).Nodup := by
    rw [List.nodup_append]
    refine ⟨nodup_target_locales registry family source, List.nodup_singleton _, ?_⟩
    rintro locale written other own rfl
    obtain ⟨target, member, rfl⟩ := List.mem_map.mp written
    exact source_locale_not_written registry family source held member (List.mem_singleton.mp own)
  rw [split]
  refine (List.perm_ext_iff_of_nodup distinct (SortedMap.nodup_keys _)).mpr fun code => ?_
  rw [List.mem_append, List.mem_singleton]
  constructor
  · rintro (written | rfl)
    · obtain ⟨target, member, rfl⟩ := List.mem_map.mp written
      rcases List.mem_append.mp member with created | updated
      · exact ((mem_create_iff registry family source target).mp created).1
      · exact ((mem_update_iff registry family source target).mp updated).1
    · exact supported
  · intro known
    by_cases own : code = source.locale
    · exact Or.inr own
    refine Or.inl ?_
    cases missing : family.get? code with
    | none =>
      have created := (mem_create_iff registry family source
        ⟨code, destination registry family.key source.path code⟩).mpr ⟨known, missing, rfl⟩
      exact List.mem_map.mpr ⟨_, List.mem_append_left _ created, rfl⟩
    | some path =>
      have updated := (mem_update_iff registry family source ⟨code, path⟩).mpr ⟨known, missing, own⟩
      exact List.mem_map.mpr ⟨_, List.mem_append_right _ updated, rfl⟩

end Plan

namespace Grouping

variable {registry : Registry} {paths : List Path} {changes : ChangeList} {family : Family}
  {source : Source} {strategy : Strategy}

/-- In a family that a run is about, the locales to be created, those to be brought up to date and the
one of the source are the supported ones, each once. The source and the files to be brought up to date
are among the files that were grouped, and lie in the slots that they are listed for; a locale to be
created has no file. -/
theorem plan_partitions_codes
    (affected : family ∈ (changes.affected (of registry paths).families).families)
    (elected : Election.hold family registry.defaultCode changes = .elected source strategy) :
    let plan := Plan.make registry family source
    (Decision.of registry changes family).plan = some plan ∧
      plan.key = family.key ∧ plan.source = source ∧
      (plan.createLocales ++ plan.updateLocales ++ [source.locale]).Perm registry.codes ∧
      registry.codes.Nodup ∧
      (∀ file ∈ ⟨source.locale, source.path⟩ :: plan.update, file.path ∈ paths ∧
        registry.slot file.path = (family.key.components, file.locale)) ∧
      ∀ target ∈ plan.create, family.contains target.locale = false := by
  intro plan
  have sourced : (Election.hold family registry.defaultCode changes).source? = some source := by
    rw [elected]
    rfl
  have held := Election.source?_hold sourced
  have member : family ∈ (of registry paths).families.families := by
    obtain ⟨entry, kept, rfl⟩ := List.mem_map.mp affected
    exact List.mem_map_of_mem (mem_affected kept)
  obtain ⟨key, found⟩ := get?_of_mem_families registry paths member
  have shows {locale : Code} {path : Path} (taken : family.get? locale = some path) :
      path ∈ paths ∧ registry.slot path = (family.key.components, locale) := by
    rw [get?_family registry paths found] at taken
    exact mem_of_member? registry paths taken
  have supported : source.locale ∈ registry.codes := by
    have known := registry.slot_locale_mem source.path
    rwa [(shows held).2] at known
  refine ⟨?_, rfl, rfl, Plan.locales_perm held supported, SortedMap.nodup_keys _, ?_, ?_⟩
  · simp only [Decision.of, sourced, Option.map_some, plan]
  · intro file listed
    rcases List.mem_cons.mp listed with rfl | updated
    · exact shows held
    · exact shows ((Plan.mem_update_iff registry family source file).mp updated).2.1
  · intro target created
    obtain ⟨-, missing, -⟩ := (Plan.mem_create_iff registry family source target).mp created
    simpa [Family.contains, SortedMap.contains, Family.get?] using missing

/-- After an edit of the Chinese file of `docs/intro`, the English one is brought up to date, and a
Japanese and a Korean one are created. -/
theorem plan_partitions_codes_intro :
    let paths := ["docs/intro.md", "docs/intro.zh.md", "docs/zh.md"].map Path.ofText
    let changes := ChangeList.ofPaths [Path.ofText "docs/./intro.zh.md"]
    let family : Family := ⟨Path.ofText "docs/intro", .ofList [("en", Path.ofText "docs/intro.md"),
      ("zh", Path.ofText "docs/intro.zh.md")]⟩
    let source : Source := ⟨"zh", Path.ofText "docs/intro.zh.md"⟩
    let plan := Plan.make .multilingual family source
    family ∈ (changes.affected (of .multilingual paths).families).families ∧
      Election.hold family "en" changes = .elected source .singleChange ∧
      (plan.createLocales, plan.updateLocales) = (["ja", "ko"], ["en"]) ∧
      (plan.createLocales ++ plan.updateLocales ++ ["zh"]).Perm Registry.multilingual.codes := by
  intro paths changes family source plan
  have affected : family ∈ (changes.affected (of .multilingual paths).families).families := by decide
  have elected : Election.hold family Registry.multilingual.defaultCode changes =
      .elected source .singleChange := by decide
  exact ⟨affected, elected, by decide, (plan_partitions_codes affected elected).2.2.2.1⟩

end Grouping

end LocaleFamilies
