import LocaleFamilies.Proofs.Translation.Protocol
import LocaleFamilies.Translation.Session

/-! A dry run foretells a run with a backend. Both report the same families in the same order, with the
same sources and plans; what the backend answers and what becomes of the files shows in nothing but how
far each plan got. So a family whose work fails leaves the other families as they are foretold. -/
namespace LocaleFamilies

universe u
variable {σ : Type u}

/-- What a dry run says of a family stands for what a run with a backend says of it. -/
inductive Outcome.Foretells : Outcome → Outcome → Prop
  | ambiguous (changed : List Code) : Foretells (.ambiguous changed) (.ambiguous changed)
  | empty : Foretells .empty .empty
  | applied {plan : Plan} (created : List Path) (updated : Bool) (warnings : List String) :
    Foretells (.planned plan) (.applied plan created updated warnings)
  | failed {plan : Plan} (created : List Path) (error : String) :
    Foretells (.planned plan) (.failed plan created error)

theorem Outcome.Foretells.plan?_eq {dry run : Outcome} (foretells : dry.Foretells run) :
    dry.plan? = run.plan? := by
  cases foretells <;> rfl

/-- A report of a dry run and one of a run with a backend agree on everything but how far the plan of
the family got. -/
structure FamilyReport.Foretells (dry run : FamilyReport) : Prop where
  key : dry.key = run.key
  strategy : dry.strategy = run.strategy
  outcome : dry.outcome.Foretells run.outcome

theorem Plan.foretells_outcome (plan : Plan) (storage : Storage σ) (backend : Backend σ)
    (registry : Registry) (state : σ) :
    (Outcome.planned plan).Foretells (plan.outcome storage backend registry state) := by
  unfold outcome
  simp only
  split
  · exact .failed _ _
  · exact .applied _ _ _

def Decision.dryReport (decision : Decision) : FamilyReport :=
  ⟨decision.key, decision.strategy?, decision.dryOutcome⟩

theorem Passes.foretold {storage : Storage σ} {backend : Backend σ} {registry : Registry}
    {changes : ChangeList} {families : List Family} {state last : σ} {events : List Event}
    {reports : List FamilyReport}
    (passes : Passes storage backend registry changes families state events last reports) :
    List.Forall₂ FamilyReport.Foretells
      (families.map fun family => (Decision.of registry changes family).dryReport) reports := by
  induction passes with
  | done state => exact .nil
  | ambiguous held _ ih =>
    refine .cons ⟨rfl, ?_, ?_⟩ ih
    · simp [Decision.dryReport, Decision.of, Decision.strategy?, held]
    · simp only [Decision.dryReport, Decision.of, Decision.dryOutcome, held]
      exact .ambiguous _
  | empty held _ ih =>
    refine .cons ⟨rfl, ?_, ?_⟩ ih
    · simp [Decision.dryReport, Decision.of, Decision.strategy?, held]
    · simp only [Decision.dryReport, Decision.of, Decision.dryOutcome, held, Election.source?,
        Option.map_none]
      exact .empty
  | elected held made _ _ ih =>
    refine .cons ⟨rfl, ?_, ?_⟩ ih
    · simp [Decision.dryReport, Decision.of, Decision.strategy?, held]
    · simp only [Decision.dryReport, Decision.of, Decision.dryOutcome, held, Election.source?,
        Option.map_some, ← made]
      exact Plan.foretells_outcome _ _ _ _ _

theorem PassReport.plans_eq_of_foretells {dry run : PassReport}
    (foretells : List.Forall₂ FamilyReport.Foretells dry.families run.families) :
    dry.plans = run.plans := by
  unfold plans
  generalize dry.families = expected at foretells ⊢
  generalize run.families = reported at foretells ⊢
  induction foretells with
  | nil => rfl
  | cons first _ ih => rw [List.filterMap_cons, List.filterMap_cons, first.outcome.plan?_eq, ih]

namespace Project

/-- A dry run foretells a pass over the same files, in any storage and with any backend. -/
theorem foretells_apply (project : Project) (scan : Scan) (storage : Storage σ)
    (backend : Backend σ) (state : σ) :
    List.Forall₂ FamilyReport.Foretells (project.preview scan).families
      (project.apply scan storage backend state).2.families := by
  have foretold := (project.passes_apply scan storage backend state).foretold
  have previewed : (project.preview scan).families = (project.affected scan).map
      fun family => (Decision.of project.registry project.changes family).dryReport :=
    List.map_map
  rw [previewed]
  exact foretold

/-- In one workspace, a dry run and a run with a backend differ only in whether the plans are applied and
in how far each of them got. -/
theorem dry_run_foretells (project : Project) (backend : Backend Workspace)
    (workspace : Workspace) :
    let dry := (project.perform none workspace).2.2
    let run := (project.perform (some backend) workspace).2.2
    List.Forall₂ FamilyReport.Foretells dry.report.families run.report.families ∧
      dry.report.plans = run.report.plans ∧
      dry.report.applied = false ∧ run.report.applied = true ∧
      dry = { run with
        report := { run.report with applied := false, families := dry.report.families } } := by
  intro dry run
  have foretold : List.Forall₂ FamilyReport.Foretells dry.report.families run.report.families :=
    project.foretells_apply _ Workspace.storage backend _
  exact ⟨foretold, PassReport.plans_eq_of_foretells foretold, rfl, rfl, rfl⟩

end Project

end LocaleFamilies
