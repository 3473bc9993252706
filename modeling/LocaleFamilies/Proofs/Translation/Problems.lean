import LocaleFamilies.Proofs.Translation.Protocol
import LocaleFamilies.Translation.Session

/-! The problems of a pass, as the exit status counts them. They are the affected families whose election
ends open and those whose work comes to a step that fails, and each of them is reported as the one or as
the other. -/
namespace LocaleFamilies

universe u
variable {σ : Type u} {storage : Storage σ} {backend : Backend σ} {state : σ}

theorem Outcome.isProblem_iff (outcome : Outcome) : outcome.isProblem = true ↔
    (∃ changed, outcome = .ambiguous changed) ∨
      ∃ plan created error, outcome = .failed plan created error := by
  cases outcome <;> simp [isProblem]

/-- Whether one of some steps fails in the state that the steps before it leave. -/
def Event.SomeFails (storage : Storage σ) (backend : Backend σ) : σ → List Event → Prop
  | _, [] => False
  | state, step :: rest =>
    step.failure? storage backend state ≠ none ∨
      SomeFails storage backend (step.effect storage backend state) rest

theorem Event.someFails_append (first second : List Event) :
    SomeFails storage backend state (first ++ second) ↔
      SomeFails storage backend state first ∨
        SomeFails storage backend (effects storage backend state first) second := by
  induction first generalizing state with
  | nil => exact (or_iff_right id).symm
  | cons step rest ih =>
    simp only [List.cons_append, SomeFails, ih, or_assoc]
    rfl

/-- Some step of an attempt fails if the attempt is stopped by one. -/
theorem Attempt.someFails_iff (steps : List Event) :
    Event.SomeFails storage backend state (make storage backend steps state).events ↔
      (make storage backend steps state).stopped ≠ none := by
  induction steps generalizing state with
  | nil => simp [make, events, Event.SomeFails]
  | cons step rest ih =>
    cases fails : step.failure? storage backend state with
    | some failure => simp [make_cons_of_failure fails, events, Event.SomeFails, fails]
    | none =>
      rw [make_cons_of_success fails]
      show step.failure? storage backend state ≠ none ∨ Event.SomeFails storage backend _ _ ↔ _
      rw [or_iff_right (not_not.mpr fails)]
      exact ih

theorem Plan.isProblem_outcome_iff (plan : Plan) (registry : Registry) :
    (plan.outcome storage backend registry state).isProblem = true ↔
      Event.SomeFails storage backend state (plan.attempt storage backend registry state).events := by
  rw [attempt, Attempt.someFails_iff, ← attempt, outcome]
  cases (plan.attempt storage backend registry state).stopped <;> simp [Outcome.isProblem]

/-- A pass reports a problem if it comes to an ambiguous family or to a step that fails. -/
theorem Passes.exists_problem_iff {registry : Registry} {changes : ChangeList}
    {families : List Family} {last : σ} {events : List Event} {reports : List FamilyReport}
    (passes : Passes storage backend registry changes families state events last reports) :
    (∃ report ∈ reports, report.outcome.isProblem = true) ↔
      (∃ family ∈ families, ∃ changed,
        Election.hold family registry.defaultCode changes = .ambiguous changed) ∨
      Event.SomeFails storage backend state events := by
  induction passes with
  | done => simp [Event.SomeFails]
  | ambiguous held _ _ => simp [held, Outcome.isProblem]
  | empty held _ ih =>
    have passed : Outcome.empty.isProblem = false := rfl
    simp [held, passed, ih]
  | elected held made attempted _ ih =>
    subst made attempted
    simp only [List.mem_cons, exists_eq_or_imp, Plan.isProblem_outcome_iff, ih, held, reduceCtorEq,
      exists_false, false_or, Event.someFails_append]
    exact or_left_comm

theorem Decision.isProblem_dryOutcome_iff (registry : Registry) (changes : ChangeList)
    (family : Family) : (of registry changes family).dryOutcome.isProblem = true ↔
      ∃ changed, Election.hold family registry.defaultCode changes = .ambiguous changed := by
  cases held : Election.hold family registry.defaultCode changes <;>
    simp [of, dryOutcome, held, Election.source?, Outcome.isProblem]

theorem PassReport.problemCount_pos_iff (report : PassReport) :
    0 < report.problemCount ↔ ∃ family ∈ report.families, family.outcome.isProblem = true := by
  simp only [problemCount, List.length_pos_iff_exists_mem, List.mem_filter]

namespace Project

variable (project : Project) (workspace : Workspace)

/-- Whether an affected family is to be skipped because its source is open. -/
def IsAmbiguous : Prop :=
  ∃ family ∈ project.affected (project.scan workspace.tree workspace.directory), ∃ changed,
    Election.hold family project.registry.defaultCode project.changes = .ambiguous changed

/-- Whether a pass has a problem. -/
def HasProblem : Option (Backend Workspace) → Prop
  | none => project.IsAmbiguous workspace
  | some backend => project.IsAmbiguous workspace ∨
    Event.SomeFails Workspace.storage backend (project.survey workspace).1
      (project.perform (some backend) workspace).2.1

theorem problemCount_pos_iff_hasProblem (backend : Option (Backend Workspace)) :
    0 < (project.perform backend workspace).2.2.report.problemCount ↔
      project.HasProblem workspace backend := by
  rw [PassReport.problemCount_pos_iff]
  cases backend with
  | some backend =>
    exact (project.passes_apply (project.survey workspace).2 Workspace.storage backend
      (project.survey workspace).1).exists_problem_iff
  | none =>
    have previewed : (project.perform none workspace).2.2.report.families =
        (project.affected (project.scan workspace.tree workspace.directory)).map fun family =>
          let decision := Decision.of project.registry project.changes family
          ⟨decision.key, decision.strategy?, decision.dryOutcome⟩ :=
      List.map_map
    simp only [previewed, List.mem_map, exists_exists_and_eq_and,
      Decision.isProblem_dryOutcome_iff]
    rfl

end Project

end LocaleFamilies
