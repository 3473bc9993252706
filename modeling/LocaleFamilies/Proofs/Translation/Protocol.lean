import LocaleFamilies.Proofs.Translation.Script

/-! The protocol of a pass. The families that a run is about are taken one after another, in the order of
their keys. A family with an elected source is worked on by an attempt at the script of its plan, in the
state that the families before it leave; the others are only reported. -/
namespace LocaleFamilies

universe u
variable {σ : Type u}

/-- A pass over some families from one state to another, with what happens and the reports. -/
inductive Passes (storage : Storage σ) (backend : Backend σ) (registry : Registry)
    (changes : ChangeList) : List Family → σ → List Event → σ → List FamilyReport → Prop
  | done (state : σ) : Passes storage backend registry changes [] state [] state []
  | ambiguous {family rest changed state events last reports} :
    Election.hold family registry.defaultCode changes = .ambiguous changed →
    Passes storage backend registry changes rest state events last reports →
    Passes storage backend registry changes (family :: rest) state events last
      (⟨family.key, none, .ambiguous changed⟩ :: reports)
  | empty {family rest state events last reports} :
    Election.hold family registry.defaultCode changes = .empty →
    Passes storage backend registry changes rest state events last reports →
    Passes storage backend registry changes (family :: rest) state events last
      (⟨family.key, none, .empty⟩ :: reports)
  | elected {family rest source strategy} {plan : Plan} {attempt : Attempt}
      {state events last reports} :
    Election.hold family registry.defaultCode changes = .elected source strategy →
    plan = Plan.make registry family source →
    attempt = plan.attempt storage backend registry state →
    Passes storage backend registry changes rest
      (Event.effects storage backend state attempt.events) events last reports →
    Passes storage backend registry changes (family :: rest) state (attempt.events ++ events) last
      (⟨family.key, some strategy, plan.outcome storage backend registry state⟩ :: reports)

namespace Progress

variable (storage : Storage σ) (backend : Backend σ) (registry : Registry) (changes : ChangeList)

/-- Carrying out the decisions on some families is a pass over them. -/
theorem passes_steps (families : List Family) (progress : Progress σ) :
    let later := (families.map (.of registry changes)).foldl (step storage backend registry) progress
    ∃ events reports,
      Passes storage backend registry changes families progress.state events later.state reports ∧
        later.events = progress.events ++ events ∧ later.reports = progress.reports ++ reports := by
  induction families generalizing progress with
  | nil => exact ⟨[], [], .done _, by simp, by simp⟩
  | cons family rest ih =>
    simp only [List.map_cons, List.foldl_cons]
    obtain ⟨events, reports, passes, happened, reported⟩ :=
      ih (progress.step storage backend registry (.of registry changes family))
    cases held : Election.hold family registry.defaultCode changes with
    | ambiguous changed =>
      have skipped : progress.step storage backend registry (.of registry changes family) =
          ⟨progress.state, progress.events,
            progress.reports ++ [⟨family.key, none, .ambiguous changed⟩]⟩ := by
        simp [step, Decision.of, Decision.dryOutcome, Decision.strategy?, held]
      rw [skipped] at passes happened reported ⊢
      exact ⟨events, _, .ambiguous held passes, happened, by rw [reported]; simp⟩
    | empty =>
      have skipped : progress.step storage backend registry (.of registry changes family) =
          ⟨progress.state, progress.events, progress.reports ++ [⟨family.key, none, .empty⟩]⟩ := by
        simp [step, Decision.of, Decision.dryOutcome, Decision.strategy?, Election.source?, held]
      rw [skipped] at passes happened reported ⊢
      exact ⟨events, _, .empty held passes, happened, by rw [reported]; simp⟩
    | elected source strategy =>
      obtain ⟨plan, made⟩ : ∃ plan, plan = Plan.make registry family source := ⟨_, rfl⟩
      have distinct : plan.createLocales.Nodup :=
        made ▸ Plan.nodup_createLocales registry family source
      obtain ⟨happens, becomes, comes⟩ := Plan.execute_eq storage backend registry progress.state distinct
      have worked : progress.step storage backend registry (.of registry changes family) =
          ⟨Event.effects storage backend progress.state
              (plan.attempt storage backend registry progress.state).events,
            progress.events ++ (plan.attempt storage backend registry progress.state).events,
            progress.reports ++ [⟨family.key, some strategy,
              plan.outcome storage backend registry progress.state⟩]⟩ := by
        rw [← becomes, ← happens, ← comes, made]
        simp [step, Decision.of, Decision.dryOutcome, Decision.strategy?, Election.source?, held]
      rw [worked] at passes happened reported ⊢
      exact ⟨_, _, .elected held made rfl passes, by rw [happened, List.append_assoc],
        by rw [reported]; simp⟩

end Progress

/-- The keys of the families that a run is about are in ascending order. -/
theorem Grouping.pairwise_affected_keys (registry : Registry) (paths : List Path)
    (changes : ChangeList) :
    (changes.affected (of registry paths).families).families.Pairwise fun first second =>
      compare first.key.components second.key.components = .lt := by
  have keyed {entry : List Component × Family}
      (member : entry ∈ (changes.affected (of registry paths).families).entries) :
      entry.2.key.components = entry.1 :=
    (key_of_get? registry paths ((SortedMap.get?_eq_some_iff _ _ _).mpr (mem_affected member))).1
  refine List.pairwise_map.mpr
    ((changes.affected (of registry paths).families).ascending.imp_of_mem ?_)
  intro first second here there less
  rw [keyed here, keyed there]
  exact less

/-- What a locale is called in a request: its display name, or its code if it is not supported. -/
def Registry.Calls (registry : Registry) (code : Code) (name : String) : Prop :=
  registry.name? code = some name ∨ code ∉ registry.codes ∧ name = code

theorem Registry.calls_nameOf (registry : Registry) (code : Code) :
    registry.Calls code (registry.nameOf code) := by
  by_cases supported : code ∈ registry.codes
  · obtain ⟨name, named⟩ := (SortedMap.mem_keys_iff registry.names code).mp supported
    rw [nameOf_of_name? named]
    exact Or.inl named
  · exact Or.inr ⟨supported, nameOf_of_not_supported supported⟩

theorem Plan.calls_request (plan : Plan) (registry : Registry) (mode : Mode) (locales : List Code)
    (files : List Path) :
    List.Forall₂ registry.Calls (plan.request registry mode locales files).targetLocales
      (plan.request registry mode locales files).targetNames :=
  List.forall₂_map_right_iff.mpr (List.forall₂_same.mpr fun code _ => registry.calls_nameOf code)

namespace Project

variable (project : Project) (scan : Scan) (storage : Storage σ) (backend : Backend σ) (state : σ)

def affected : List Family :=
  (project.changes.affected (project.discover scan).families).families

theorem passes_apply :
    let run := project.apply scan storage backend state
    Passes storage backend project.registry project.changes (project.affected scan) state
      run.1.events run.1.state run.2.families := by
  obtain ⟨events, reports, passes, happened, reported⟩ := Progress.passes_steps storage backend
    project.registry project.changes (project.affected scan) ⟨state, [], []⟩
  rw [List.nil_append] at happened reported
  rw [← happened, ← reported] at passes
  exact passes

theorem calls_of_asked {request : Request}
    (asked : .asked request ∈ (project.apply scan storage backend state).1.events) :
    project.registry.Calls request.sourceLocale request.sourceName ∧
      List.Forall₂ project.registry.Calls request.targetLocales request.targetNames := by
  obtain ⟨events, happened, -, allowed⟩ := project.follows_apply scan storage backend state
  change (project.apply scan storage backend state).1.events = [] ++ events at happened
  rw [happened, List.nil_append] at asked
  obtain ⟨plan, -, allows⟩ := allowed _ asked
  cases allows with
  | creation | refresh =>
    exact ⟨project.registry.calls_nameOf _, plan.calls_request project.registry _ _ _⟩

/-- A pass takes the affected families in the ascending order of their keys, and works on each one that
has a source by an attempt at the script of its plan. Nothing else happens: the events, the state and the
reports of the run are those of the pass. In each request the names stand at the positions of their
locales. -/
theorem apply_keeps_protocol :
    let run := project.apply scan storage backend state
    (project.affected scan).Pairwise (fun first second =>
        compare first.key.components second.key.components = .lt) ∧
      Passes storage backend project.registry project.changes (project.affected scan) state
        run.1.events run.1.state run.2.families ∧
      ∀ request, .asked request ∈ run.1.events →
        project.registry.Calls request.sourceLocale request.sourceName ∧
          List.Forall₂ project.registry.Calls request.targetLocales request.targetNames :=
  ⟨Grouping.pairwise_affected_keys project.registry scan.files project.changes,
    project.passes_apply scan storage backend state,
    fun _ asked => project.calls_of_asked scan storage backend state asked⟩

end Project

end LocaleFamilies
