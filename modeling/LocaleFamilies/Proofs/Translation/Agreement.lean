import LocaleFamilies.Proofs.ChangeList.Printed
import LocaleFamilies.Proofs.Translation.Election
import LocaleFamilies.Proofs.Translation.Problems

/-! The election agrees with the choice of families. Both go by the members that a change list names, but
each looks for them itself: a family is in the run if it has one, and then its source is one of them, or
the election ends open because there are several. In a full scan every family gets a source, and a run
that only plans has no problems. -/
namespace LocaleFamilies

/-- A dry run over everything has no problems. -/
theorem Project.problemCount_perform_fullScan (project : Project) (workspace : Workspace)
    (full : project.changes.isFullScan = true) :
    (project.perform none workspace).2.2.report.problemCount = 0 := by
  have changes := (ChangeList.isFullScan_iff _).mp full
  refine Nat.eq_zero_of_not_pos fun some_problem => ?_
  obtain ⟨family, affected, changed, ambiguous⟩ :=
    (project.problemCount_pos_iff_hasProblem workspace none).mp some_problem
  rw [Project.affected, changes, ChangeList.affected_fullScan] at affected
  obtain ⟨source, strategy, elected⟩ := (Grouping.goesByCodes_of_mem affected).exists_elected
  rw [changes, elected] at ambiguous
  cases ambiguous

namespace Grouping

/-- With a change list, the families with a listed member are kept and no others, however often the
choice is made, and the election in each of them goes by the edits. In a full scan all families are
kept and the elections go by the codes, so there is nothing to be skipped. A listed member in the default
locale is the source whatever else is listed. A member counts as listed under every spelling of its normal
form. -/
theorem filter_and_election_agree (registry : Registry) (paths : List Path) :
    let families := (of registry paths).families
    (∀ changes : ChangeList, changes.isFullScan = false →
      (∀ key family, (changes.affected families).get? key = some family ↔
        families.get? key = some family ∧
          ∃ locale path, family.get? locale = some path ∧ changes.contains path = true) ∧
      changes.affected (changes.affected families) = changes.affected families ∧
      ∀ family ∈ (changes.affected families).families,
        Election.GoesByEdits family registry.defaultCode changes
          (Election.hold family registry.defaultCode changes)) ∧
    (∀ changes : ChangeList, changes.isFullScan = true →
      changes.affected families = families ∧
      ∀ family ∈ families.families, Election.GoesByCodes family registry.defaultCode
        (Election.hold family registry.defaultCode changes)) ∧
    (∀ changes : ChangeList, ∀ family ∈ families.families, ∀ path,
      family.get? registry.defaultCode = some path → changes.contains path = true →
        Election.hold family registry.defaultCode changes =
          .elected ⟨registry.defaultCode, path⟩ .changedDefault) ∧
    (∀ (project : Project) (workspace : Workspace), project.changes.isFullScan = true →
      (project.perform none workspace).2.2.report.problemCount = 0) ∧
    ∀ listed path, (ChangeList.ofPaths listed).isFullScan = false ∧
      ((ChangeList.ofPaths listed).contains path = true ↔
        ∃ other ∈ listed, path.normalize.same other.normalize = true) := by
  intro families
  refine ⟨fun changes supplied => ⟨fun key family => ?_, changes.affected_affected families,
    fun family kept => ?_⟩, fun changes full => ?_, fun changes family _ path held listed =>
      Election.hold_changedDefault held listed, Project.problemCount_perform_fullScan,
    fun listed path => ⟨rfl, ChangeList.contains_ofPaths_iff listed path⟩⟩
  · rw [changes.get?_affected_iff, changes.touches_iff, supplied]
    simp
  · obtain ⟨⟨key, _⟩, entry, rfl⟩ := List.mem_map.mp kept
    rcases ((changes.mem_affected_iff families _).mp entry).2 with full | touched
    · rw [supplied] at full
      cases full
    · exact Election.goesByEdits_hold touched
  · rw [(ChangeList.isFullScan_iff _).mp full]
    exact ⟨ChangeList.affected_fullScan families, fun family member => goesByCodes_of_mem member⟩

/-- Of two edited files the English one is the source, which the list names by a detour. -/
theorem filter_and_election_agree_intro :
    let paths := ["docs/intro.md", "docs/intro.zh.md", "docs/notes.md"].map Path.ofText
    let families := (of .bilingual paths).families
    let changes := ChangeList.ofPaths (["docs/notes/../intro.md", "docs/intro.zh.md"].map Path.ofText)
    let family : Family := ⟨Path.ofText "docs/intro", .ofList [("en", Path.ofText "docs/intro.md"),
      ("zh", Path.ofText "docs/intro.zh.md")]⟩
    changes.contains (Path.ofText "docs/intro.md") = true ∧
      family ∈ (changes.affected families).families ∧
      Election.GoesByEdits family "en" changes (Election.hold family "en" changes) ∧
      Election.hold family "en" changes =
        .elected ⟨"en", Path.ofText "docs/intro.md"⟩ .changedDefault := by
  intro paths families changes family
  obtain ⟨edits, -, default, -, spelled⟩ := filter_and_election_agree .bilingual paths
  have listed : changes.contains (Path.ofText "docs/intro.md") = true :=
    (spelled _ _).2.mpr ⟨Path.ofText "docs/notes/../intro.md", by decide, by decide⟩
  have kept : family ∈ (changes.affected families).families := by decide
  have grouped : family ∈ families.families := by decide
  obtain ⟨-, -, elections⟩ := edits changes rfl
  exact ⟨listed, kept, elections family kept, default changes family grouped _ (by decide) listed⟩

end Grouping

end LocaleFamilies
