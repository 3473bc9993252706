import LocaleFamilies.Report.Summary
import LocaleFamilies.Workspace

/-! A pass in a workspace: the project is scanned, the warnings of the scan are written out if the run
is verbose, and the files are translated in place. -/
namespace LocaleFamilies.Project

def survey (project : Project) (workspace : Workspace) : Workspace × Scan :=
  let scan := project.scan workspace.tree workspace.directory
  (if project.verbose then scan.warnings.foldl .warn workspace else workspace, scan)

def summary (project : Project) (report : PassReport) : Report.PassSummary where
  root := project.root
  registry := project.registry
  scanDirs := project.selection.directories
  changedCount := project.changes.paths.length
  report := report

/-- Carries out a pass: the workspace after it, what happened, and the report. Without a backend
nothing is translated. -/
def perform (project : Project) (backend : Option (Backend Workspace)) (workspace : Workspace) :
    Workspace × List Event × Report.PassSummary :=
  let (workspace, scan) := project.survey workspace
  match backend with
  | none => (workspace, [], project.summary (project.preview scan))
  | some backend =>
    let (progress, report) := project.apply scan Workspace.storage backend workspace
    (progress.state, progress.events, project.summary report)

end LocaleFamilies.Project
