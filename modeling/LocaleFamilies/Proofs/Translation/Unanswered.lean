import LocaleFamilies.Proofs.Translation.Creation
import LocaleFamilies.Proofs.Translation.Partition
import LocaleFamilies.Proofs.Translation.Protocol

/-! Locales that the content of a backend leaves open: those that it was asked for and has nothing for,
and those that it was not asked for. Once the rest is placed the report on the family names them, unless
the files are then brought up to date and that fails: the report on a failure has its cause alone. -/
namespace LocaleFamilies

universe u
variable {σ : Type u}

namespace Outcome

def texts : Outcome → List String
  | .applied _ _ _ warnings => warnings
  | .failed _ _ error => [error]
  | _ => []

def Names (outcome : Outcome) (locale : Code) : Prop :=
  ∃ text ∈ outcome.texts, locale.toList <:+: text.toList

end Outcome

/-- Whether content leaves a locale open that is asked for, or has a text for one that is not. -/
def Plan.Unanswered (plan : Plan) (content : Content) (locale : Code) : Prop :=
  locale ∈ plan.createLocales ∧ content.get? locale = none ∨
    locale ∈ content.keys ∧ locale ∉ plan.createLocales

instance (plan : Plan) (content : Content) (locale : Code) :
    Decidable (plan.Unanswered content locale) :=
  inferInstanceAs (Decidable (_ ∧ _ ∨ _ ∧ _))

theorem Warning.exists_due {plan : Plan} {content : Content} {locale : Code} (backend : String)
    (unanswered : plan.Unanswered content locale) :
    ∃ warning ∈ due backend plan.create content, locale.toList <:+: warning.message.toList := by
  rcases unanswered with ⟨asked, missing⟩ | ⟨given, unasked⟩
  · obtain ⟨target, created, rfl⟩ := List.mem_map.mp asked
    refine ⟨.noContent backend target.locale, ?_, ?_⟩
    · refine List.mem_append_left _ (List.mem_map.mpr ⟨target, List.mem_filter.mpr ⟨created, ?_⟩, rfl⟩)
      simp [SortedMap.contains, missing]
    · refine ⟨("backend '" ++ backend ++ "' returned no content for '").toList, "'".toList, ?_⟩
      simp only [message, String.toList_append]
  · refine ⟨.unrequested backend locale, ?_, ?_⟩
    · refine List.mem_append_right _ (List.mem_map.mpr ⟨locale, List.mem_filter.mpr ⟨given, ?_⟩, rfl⟩)
      exact decide_eq_true unasked
    · refine ⟨("backend '" ++ backend ++ "' returned unrequested locale '").toList,
        "', ignored".toList, ?_⟩
      simp only [message, String.toList_append]

namespace Plan

variable {storage : Storage σ} {backend : Backend σ} {registry : Registry} {plan : Plan}
  {content : Content} {state asked : σ} (open_plan : plan.create ≠ [])
  (answered : backend.create (plan.creation registry) state = (asked, .ok content))

include open_plan answered

private theorem answer_eq : plan.answer backend registry state = content := by
  rw [answer, if_neg (by simpa using open_plan), ← plan.creation_eq registry, answered]

variable (placed : (Attempt.make storage backend (placements plan.create content) asked).stopped = none)

include placed

private theorem attempt_eq : plan.attempt storage backend registry state =
    let later := Attempt.make storage backend (plan.closing registry)
      (Event.effects storage backend asked (placements plan.create content))
    ⟨.asked (plan.creation registry) :: placements plan.create content ++ later.taken,
      later.stopped⟩ := by
  have opened : plan.opening registry = [.asked (plan.creation registry)] := by
    rw [opening, if_neg (by simpa using open_plan), plan.creation_eq registry]
  have effect : (Event.asked (plan.creation registry)).effect storage backend state = asked :=
    congrArg Prod.fst answered
  have succeeds : (Event.asked (plan.creation registry)).failure? storage backend state = none :=
    congrArg (fun result : σ × Except String Content => Failure.of? .backend result.2) answered
  have through : (Attempt.make storage backend
      (plan.opening registry ++ placements plan.create content) state).stopped = none := by
    rw [opened, List.singleton_append, Attempt.make_cons_of_success succeeds, effect]
    exact placed
  have whole := Attempt.make_append_of_through through (plan.closing registry)
  rw [attempt, answer_eq open_plan answered, script, whole, opened, List.singleton_append,
    Event.effects, List.foldl_cons, effect]
  rfl

/-- Once content is placed, the report has the warnings that it calls for, or else what is wrong with
bringing the other files up to date. -/
theorem texts_outcome_of_placed :
    (plan.outcome storage backend registry state).texts =
      if plan.update = [] then (Warning.due backend.name plan.create content).map (·.message)
      else
        match (backend.update (plan.refresh registry)
          (Event.effects storage backend asked (placements plan.create content))).2 with
        | .ok () => (Warning.due backend.name plan.create content).map (·.message)
        | .error message => [message] := by
  rw [outcome, attempt_eq open_plan answered placed, answer_eq open_plan answered, closing,
    ← plan.refresh_eq registry]
  by_cases nothing : plan.update = []
  · rw [if_pos nothing, if_pos (by simpa using nothing)]
    rfl
  · rw [if_neg nothing, if_neg (by simpa using nothing)]
    generalize Event.effects storage backend asked (placements plan.create content) = written
    cases refreshed : (backend.update (plan.refresh registry) written).2 with
    | ok =>
      have succeeds : (Event.asked (plan.refresh registry)).failure? storage backend written =
          none := congrArg (Failure.of? .backend) refreshed
      rw [Attempt.make_cons_of_success succeeds]
      rfl
    | error message =>
      have fails : (Event.asked (plan.refresh registry)).failure? storage backend written =
          some (.backend message) := congrArg (Failure.of? .backend) refreshed
      rw [Attempt.make_cons_of_failure fails]
      rfl

/-- The report on a family names a locale that the content for its plan leaves open exactly if the files
are not then brought up to date, or are so without a failure, or fail with a message that names it. -/
theorem names_unanswered_iff {family : Family} {source : Source}
    (made : plan = make registry family source) {locale : Code}
    (unanswered : plan.Unanswered content locale) :
    ((plan.execute storage backend registry state).outcome plan).Names locale ↔
      ∀ message, plan.update ≠ [] →
        (backend.update (plan.refresh registry)
          (Event.effects storage backend asked (placements plan.create content))).2 =
            .error message →
        locale.toList <:+: message.toList := by
  have distinct : plan.createLocales.Nodup := made ▸ nodup_createLocales registry family source
  obtain ⟨-, -, executed⟩ := execute_eq storage backend registry state distinct
  have warned : ∃ text ∈ (Warning.due backend.name plan.create content).map (·.message),
      locale.toList <:+: text.toList := by
    obtain ⟨warning, due, names⟩ := Warning.exists_due backend.name unanswered
    exact ⟨warning.message, List.mem_map_of_mem due, names⟩
  rw [executed, Outcome.Names, texts_outcome_of_placed open_plan answered placed]
  by_cases nothing : plan.update = []
  · rw [if_pos nothing]
    exact ⟨fun _ _ something => absurd nothing something, fun _ => warned⟩
  · rw [if_neg nothing]
    cases (backend.update (plan.refresh registry)
      (Event.effects storage backend asked (placements plan.create content))).2 with
    | ok =>
      refine ⟨fun _ message _ failed => ?_, fun _ => warned⟩
      cases failed
    | error cause =>
      constructor
      · rintro ⟨text, said, names⟩ message - failed
        rw [List.mem_singleton.mp said] at names
        rwa [← Except.error.inj failed]
      · exact fun named => ⟨cause, List.mem_singleton_self _, named cause nothing rfl⟩

end Plan

section Sparse

def Content.sparse : Content := .ofList [("fr", "nouveau"), ("zh", "new")]

def Backend.sparse (refreshed : Except String Unit) : Backend Workspace where
  name := "sparse"
  create _ workspace := (workspace, .ok .sparse)
  update _ workspace := (workspace, refreshed)

def Workspace.sparse : Workspace :=
  .ofDocuments [("intro.md", .file (Bytes.ofText "text") false),
    ("intro.ko.md", .file (Bytes.ofText "old") false)]

def Plan.sparse : Plan :=
  .make .multilingual ⟨Path.ofText "/docs/intro", .ofList [("en", Path.ofText "/docs/intro.md"),
    ("ko", Path.ofText "/docs/intro.ko.md")]⟩ ⟨"en", Path.ofText "/docs/intro.md"⟩

/-- If the Korean file is then brought up to date, the report names Japanese, which was asked for and
was not there. -/
theorem names_unanswered_japanese :
    Plan.sparse.Unanswered .sparse "ja" ∧
      ((Plan.sparse.execute Workspace.storage (.sparse (.ok ())) .multilingual .sparse).outcome
        .sparse).Names "ja" := by
  have unanswered : Plan.sparse.Unanswered .sparse "ja" := by decide
  have open_plan : Plan.sparse.create ≠ [] := by decide
  have answered : (Backend.sparse (.ok ())).create (Plan.sparse.creation .multilingual) .sparse =
      (.sparse, .ok .sparse) := rfl
  have placed : (Attempt.make Workspace.storage (.sparse (.ok ()))
      (Plan.placements Plan.sparse.create .sparse) .sparse).stopped = none := by decide
  refine ⟨unanswered, (Plan.names_unanswered_iff open_plan answered placed rfl unanswered).mpr
    fun message _ failed => ?_⟩
  cases failed

/-- The report need not name all that is left open. Japanese is asked for and not there, French is there
and not asked for; the Chinese file is written, and then the Korean one cannot be brought up to date. -/
theorem leaves_unanswered_unnamed :
    let project : Project := { Project.ofDocuments [] with registry := .multilingual }
    let run := project.perform (some (.sparse (.error "no connection"))) .sparse
    let outcomes := run.2.2.report.families.map (·.outcome)
    outcomes = [.failed .sparse [Path.ofText "/docs/intro.zh.md"] "no connection"] ∧
      Plan.sparse.Unanswered .sparse "ja" ∧ Plan.sparse.Unanswered .sparse "fr" ∧
      ∀ outcome ∈ outcomes, ¬ outcome.Names "ja" ∧ ¬ outcome.Names "fr" := by
  intro project run outcomes
  have reported : outcomes =
      [.failed .sparse [Path.ofText "/docs/intro.zh.md"] "no connection"] := by decide
  refine ⟨reported, by decide, by decide, fun outcome member => ?_⟩
  clear_value outcomes
  subst reported
  obtain rfl := List.mem_singleton.mp member
  -- The message lacks a letter of each of the two codes.
  have unnamed {locale : Code} {letter : Char} (written : letter ∈ locale.toList)
      (absent : letter ∉ "no connection".toList) :
      ¬ (Outcome.failed .sparse [Path.ofText "/docs/intro.zh.md"] "no connection").Names locale := by
    rintro ⟨text, said, named⟩
    rw [List.mem_singleton.mp said] at named
    exact absent (named.subset written)
  exact ⟨unnamed (show 'j' ∈ _ by decide) (by decide), unnamed (show 'f' ∈ _ by decide) (by decide)⟩

end Sparse

end LocaleFamilies
