import LocaleFamilies.CommandLine.Run
import LocaleFamilies.Proofs.Translation.Creation
import LocaleFamilies.Proofs.Translation.Problems

/-! The course of a command. Whatever makes it give up is found out before a file is changed and before a
program is started, so a command that is given up leaves no trace. One that is carried out tells by its
status whether there was a problem, and only a pass that is applied may change what was there. -/
namespace LocaleFamilies

def Report.Summary.reports : Report.Summary → List FamilyReport
  | .pass summary => summary.report.families
  | _ => []

namespace CommandLine

open Report

def Outcome.ofPass (project : Project) (backend : Option (Backend Workspace))
    (workspace : Workspace) : Outcome :=
  let passed := project.perform backend workspace
  ⟨passed.1, passed.2.1, .ok (.ofPass passed.2.2)⟩

/-- What becomes of an invocation, for everything that may start the programs. -/
inductive Course (workspace : Workspace) : Invocation → (Launcher → Outcome) → Prop
  | refused {invocation : Invocation} (error : Error) :
    Course workspace invocation fun _ => ⟨workspace, [], .error error⟩
  | overview : Course workspace .overview fun _ => ⟨workspace, [], .ok (.plain .overview)⟩
  | listed {options : Project.Options} {project : Project} (listing : Listing)
    (opened : open? workspace options none = .ok project) :
    Course workspace (.families options) fun _ =>
      ⟨(project.survey workspace).1, [], .ok (.plain (.listing listing))⟩
  | made {file : Path} {content : Bytes} {tree : FileTree} (named : file = .ofText Config.fileName)
    (missing : workspace.tree.hasEntry workspace.directory file = false)
    (written : workspace.tree.write workspace.directory file content = .ok tree) :
    Course workspace .configure fun _ =>
      ⟨{ workspace with tree := tree }, [], .ok (.plain (.made file))⟩
  | passed {options : Project.Options} {changed : Option String} {apply : Bool} {project : Project}
    {backend : Launcher → Option (Backend Workspace)}
    (opened : open? workspace options changed = .ok project)
    (settled : ∀ launch, backend? launch project apply = .ok (backend launch)) :
    Course workspace (.sync options changed apply) fun launch =>
      .ofPass project (backend launch) workspace

/-- Whether a pass is to be carried out or a configuration to be made. -/
def Invocation.mayWrite : Invocation → Bool
  | .sync _ _ apply => apply
  | .configure => true
  | _ => false

/-- Whether a pass has a problem: an ambiguous family, or a step that fails. -/
def Invocation.HasProblem (launch : Launcher) (workspace : Workspace) : Invocation → Prop
  | .sync options changed apply => ∃ project backend,
    open? workspace options changed = .ok project ∧
      backend? launch project apply = .ok backend ∧ project.HasProblem workspace backend
  | _ => False

variable (workspace : Workspace)

/-- Whether there is a backend is settled without one being started. -/
theorem backend?_cases (project : Project) (apply : Bool) :
    (∃ error, ∀ launch, backend? launch project apply = .error error) ∨
      ∃ backend : Launcher → Option (Backend Workspace),
        ∀ launch, backend? launch project apply = .ok (backend launch) := by
  unfold backend?
  cases apply with
  | false => exact Or.inr ⟨fun _ => none, fun _ => rfl⟩
  | true =>
    cases project.backend with
    | none => exact Or.inl ⟨.noBackend, fun _ => rfl⟩
    | some command =>
      exact Or.inr ⟨fun launch => some (Program.backend launch project.root command), fun _ => rfl⟩

theorem exists_course_sync (options : Project.Options) (changed : Option String) (apply : Bool) :
    ∃ outcomes, Course workspace (.sync options changed apply) outcomes ∧
      ∀ launch, sync launch options changed apply workspace = outcomes launch := by
  cases opened : open? workspace options changed with
  | error error =>
    refine ⟨_, .refused error, fun launch => ?_⟩
    simp only [sync, opened, bind, Except.bind]
  | ok project =>
    rcases backend?_cases project apply with ⟨error, refused⟩ | ⟨backend, settled⟩
    · refine ⟨_, .refused error, fun launch => ?_⟩
      simp only [sync, opened, bind, Except.bind, refused]
    · refine ⟨_, .passed opened settled, fun launch => ?_⟩
      simp only [sync, opened, bind, Except.bind, settled, pure, Except.pure]
      rfl

theorem exists_course_configure :
    ∃ outcome, Course workspace .configure (fun _ => outcome) ∧ configure workspace = outcome := by
  unfold configure
  generalize named : Path.ofText Config.fileName = file
  generalize Config.initial.render ++ "\n" = text
  simp only
  split
  · exact ⟨_, .refused .alreadyThere, rfl⟩
  · rename_i missing
    have missing := Bool.eq_false_iff.mpr missing
    simp only [Workspace.storage]
    cases written : workspace.tree.write workspace.directory file (Bytes.ofText text) with
    | error fault => exact ⟨_, .refused (.notWritten fault), rfl⟩
    | ok tree => exact ⟨_, .made named.symm missing written, rfl⟩

/-- Every command takes a course. -/
theorem exists_course (invocation : Invocation) :
    ∃ outcomes, Course workspace invocation outcomes ∧
      ∀ launch, run launch invocation workspace = outcomes launch := by
  cases invocation with
  | overview => exact ⟨_, .overview, fun _ => rfl⟩
  | sync options changed apply => exact exists_course_sync workspace options changed apply
  | configure =>
    obtain ⟨outcome, course, same⟩ := exists_course_configure workspace
    exact ⟨_, course, fun _ => same⟩
  | families options =>
    cases opened : open? workspace options none with
    | error error => exact ⟨_, .refused error, fun _ => by simp only [run, families, opened]⟩
    | ok project => exact ⟨_, .listed _ opened, fun _ => by simp only [run, families, opened]; rfl⟩

namespace Course

variable {workspace} {invocation : Invocation} {outcomes : Launcher → Outcome}
  (course : Course workspace invocation outcomes) (launch : Launcher)

include course

theorem of_error {error : Error} (failed : (outcomes launch).result = .error error) :
    ∀ other, outcomes other = ⟨workspace, [], .error error⟩ := by
  cases course with
  | refused cause =>
    cases failed
    exact fun _ => rfl
  | overview | listed | made | passed => cases failed

theorem of_not_mayWrite (reads : invocation.mayWrite = false) :
    (outcomes launch).workspace.tree = workspace.tree ∧ (outcomes launch).events = [] ∧
      ∀ other, outcomes other = outcomes launch := by
  cases course with
  | refused | overview => exact ⟨rfl, rfl, fun _ => rfl⟩
  | listed => exact ⟨(Project.survey_eq _ workspace).1, rfl, fun _ => rfl⟩
  | made => cases reads
  | @passed options changed apply project backend opened settled =>
    cases (show apply = false from reads)
    have none (launch : Launcher) : backend launch = none := (Except.ok.inj (settled launch)).symm
    simp only [none]
    exact ⟨(project.survey_eq workspace).1, rfl, fun _ => trivial⟩

/-- Making a configuration keeps every entry, since it is written where there is none. -/
theorem of_configure (asked : invocation = .configure) {location : Location} {entry : Entry}
    (found : workspace.tree.get? location = some entry) :
    (outcomes launch).workspace.tree.get? location = some entry := by
  cases course with
  | refused | overview => exact found
  | listed | passed => cases asked
  | made named missing written =>
    -- Only an entry that the path leads to could be overwritten, and it leads to none.
    rcases (FileTree.grows_write written).2 location entry found with kept | ⟨-, there⟩
    · exact kept
    · rw [FileTree.hasEntry, there] at missing
      cases missing

theorem status_iff {result : Result} (done : (outcomes launch).result = .ok result) :
    (result.status = .failure ↔ invocation.HasProblem launch workspace) ∧
      (result.status = .failure ↔
        ∃ report ∈ result.summary.reports, report.outcome.isProblem = true) := by
  have plain (summary : Summary) : (Result.plain summary).status ≠ .failure := by
    intro failed
    cases failed
  cases course with
  | refused => cases done
  | overview | listed | made =>
    cases done
    exact ⟨iff_of_false (plain _) id, iff_of_false (plain _) (by rintro ⟨_, ⟨⟩, _⟩)⟩
  | @passed options changed apply project backend opened settled =>
    cases done
    have counted : (Result.ofPass (project.perform (backend launch) workspace).2.2).status = .failure ↔
        0 < (project.perform (backend launch) workspace).2.2.report.problemCount := by
      simp [Result.status, Result.ofPass, Nat.pos_iff_ne_zero]
    refine ⟨counted.trans ((project.problemCount_pos_iff_hasProblem workspace _).trans ?_),
      counted.trans (PassReport.problemCount_pos_iff _)⟩
    constructor
    · exact fun problem => ⟨project, backend launch, opened, settled launch, problem⟩
    · rintro ⟨known, used, opened', settled', problem⟩
      cases opened.symm.trans opened'
      cases (settled launch).symm.trans settled'
      exact problem

end Course

/-- A command that is given up leaves the workspace as it was, and nothing has happened, whatever would
have started the programs. The same goes for the files of a command that is not to write. Making a
configuration keeps all that was there. A command that is carried out ends with a failure if it is a sync
that has a problem, which is the case if it reports a family as ambiguous or as failed, and else with
success. -/
theorem command_leaves (launch : Launcher) (invocation : Invocation) (workspace : Workspace) :
    let after := run launch invocation workspace
    (∀ error, after.result = .error error →
        after.workspace = workspace ∧ after.events = [] ∧
          ∀ other, run other invocation workspace = after) ∧
      (invocation.mayWrite = false →
        after.workspace.tree = workspace.tree ∧ after.events = [] ∧
          ∀ other, run other invocation workspace = after) ∧
      (invocation = .configure → ∀ location entry, workspace.tree.get? location = some entry →
        after.workspace.tree.get? location = some entry) ∧
      ∀ result, after.result = .ok result →
        (result.status = .failure ↔ invocation.HasProblem launch workspace) ∧
          (result.status = .failure ↔ ∃ report ∈ result.summary.reports,
            (∃ changed, report.outcome = .ambiguous changed) ∨
              ∃ plan created cause, report.outcome = .failed plan created cause) ∧
          (result.status ≠ .failure → result.status = .success) := by
  intro after
  obtain ⟨outcomes, course, same⟩ := exists_course workspace invocation
  have here : after = outcomes launch := same launch
  rw [here]
  simp only [same]
  refine ⟨fun error failed => ?_, course.of_not_mayWrite launch,
    fun asked location entry found => course.of_configure launch asked found,
    fun result done => ?_⟩
  · have refused := course.of_error launch failed
    rw [refused launch]
    exact ⟨rfl, rfl, refused⟩
  · obtain ⟨problem, reported⟩ := course.status_iff launch done
    simp only [Outcome.isProblem_iff] at reported
    refine ⟨problem, reported, fun passes => ?_⟩
    unfold Result.status at passes ⊢
    split at passes
    · exact absurd rfl passes
    · rename_i clean
      rw [if_neg clean]

end CommandLine

end LocaleFamilies
