import LocaleFamilies.Family.Grouping
import LocaleFamilies.Project
import LocaleFamilies.Total
import LocaleFamilies.Translation.Execution

/-! A translation pass over a project. What is to be done is settled for all families first, from the
files that the scan found; the plans are then executed one after another, in the order of the family
keys, and what happens to one family does not stop the others. Without a backend nothing is done. -/
namespace LocaleFamilies

universe u

inductive Outcome
  /-- Skipped, since several members changed and none of them is in the default locale. -/
  | ambiguous (changed : List Code)
  /-- Skipped, since there are no members. -/
  | empty
  | planned (plan : Plan)
  | applied (plan : Plan) (created : List Path) (updated : Bool) (warnings : List String)
  | failed (plan : Plan) (created : List Path) (error : String)
  deriving DecidableEq

namespace Outcome

def plan? : Outcome → Option Plan
  | ambiguous _ => none
  | empty => none
  | planned plan => some plan
  | applied plan _ _ _ => some plan
  | failed plan _ _ => some plan

/-- Whether the exit status counts an outcome as a problem. -/
def isProblem : Outcome → Bool
  | ambiguous _ => true
  | failed _ _ _ => true
  | _ => false

def created : Outcome → List Path
  | applied _ created _ _ => created
  | failed _ created _ => created
  | _ => []

def updated : Outcome → List Target
  | applied plan _ true _ => plan.update
  | _ => []

end Outcome

structure FamilyReport where
  key : Path
  strategy : Option Strategy
  outcome : Outcome
  deriving DecidableEq

structure PassReport where
  filesScanned : Nat
  inaccessible : Nat
  missing : List Path
  familyCount : Nat
  collisions : List Collision
  placed : List PlacedFile
  fullScan : Bool
  /-- The affected families in the order of their keys. -/
  families : List FamilyReport
  applied : Bool

namespace PassReport

def problemCount (report : PassReport) : Nat :=
  (report.families.filter fun family => family.outcome.isProblem).length

def plans (report : PassReport) : List Plan := report.families.filterMap (·.outcome.plan?)

def createCount (report : PassReport) : Nat := total (report.plans.map (·.create.length))

def updateCount (report : PassReport) : Nat := total (report.plans.map (·.update.length))

end PassReport

structure Decision where
  key : Path
  election : Election
  plan : Option Plan
  deriving DecidableEq

def Decision.of (registry : Registry) (changes : ChangeList) (family : Family) : Decision :=
  let election := Election.hold family registry.defaultCode changes
  ⟨family.key, election, election.source?.map fun source => .make registry family source⟩

def Grouping.decisions (grouping : Grouping) (registry : Registry) (changes : ChangeList) :
    List Decision :=
  (changes.affected grouping.families).families.map (.of registry changes)

namespace Decision

def strategy? (decision : Decision) : Option Strategy :=
  match decision.election with
  | .elected _ strategy => some strategy
  | _ => none

def dryOutcome (decision : Decision) : Outcome :=
  match decision.election, decision.plan with
  | .ambiguous changed, _ => .ambiguous changed
  | _, some plan => .planned plan
  | _, none => .empty

end Decision

def Work.outcome {σ : Type u} (work : Work σ) (plan : Plan) : Outcome :=
  match work.failure with
  | some failure => .failed plan work.created failure.message
  | none =>
    .applied plan work.created (!plan.update.isEmpty) (work.warnings.map (·.message))

/-- The reports on families, with all that happened and the state after it. -/
structure Progress (σ : Type u) where
  state : σ
  events : List Event
  reports : List FamilyReport

namespace Progress

variable {σ : Type u}

def step (storage : Storage σ) (backend : Backend σ) (registry : Registry) (progress : Progress σ)
    (decision : Decision) : Progress σ :=
  match decision.dryOutcome with
  | .planned plan =>
    let work := plan.execute storage backend registry progress.state
    { state := work.state
      events := progress.events ++ work.events
      reports := progress.reports ++ [⟨decision.key, decision.strategy?, work.outcome plan⟩] }
  | skipped =>
    { progress with
      reports := progress.reports ++ [⟨decision.key, decision.strategy?, skipped⟩] }

end Progress

namespace Project

def scan (project : Project) (tree : FileTree) (directory : Location) : Scan :=
  .of tree directory project.root project.selection

def discover (project : Project) (scan : Scan) : Grouping := .of project.registry scan.files

def report (project : Project) (scan : Scan) (applied : Bool) (families : List FamilyReport) :
    PassReport :=
  let grouping := project.discover scan
  { filesScanned := grouping.placed.length
    inaccessible := scan.unreadable.length
    missing := scan.missing
    familyCount := grouping.families.size
    collisions := grouping.collisions
    placed := grouping.placed
    fullScan := project.changes.isFullScan
    families := families
    applied := applied }

def decisions (project : Project) (scan : Scan) : List Decision :=
  (project.discover scan).decisions project.registry project.changes

def preview (project : Project) (scan : Scan) : PassReport :=
  project.report scan false <| (project.decisions scan).map fun decision =>
    ⟨decision.key, decision.strategy?, decision.dryOutcome⟩

/-- A pass: the state after it, what happened, and the report. -/
def apply {σ : Type u} (project : Project) (scan : Scan) (storage : Storage σ)
    (backend : Backend σ) (state : σ) : Progress σ × PassReport :=
  let progress := (project.decisions scan).foldl (.step storage backend project.registry)
    ⟨state, [], []⟩
  (progress, project.report scan true progress.reports)

end Project

end LocaleFamilies
