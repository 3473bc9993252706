import LocaleFamilies.CommandLine.Arguments
import LocaleFamilies.Translation.Program
import LocaleFamilies.Translation.Session

/-! Carrying out the command. Everything that can be refused is refused before the first file is
changed and before a translation program is started; what goes wrong later is part of the report. -/
namespace LocaleFamilies.CommandLine

open Report

inductive Error
  | project (cause : Project.Error)
  | noBackend
  | alreadyThere
  | notWritten (cause : Fault)
  deriving DecidableEq

def Error.message : Error → String
  | .project cause => cause.message
  | .noBackend =>
    "--apply requires a translation backend: set 'backend.command' in " ++ Config.fileName
  | .alreadyThere => Config.fileName ++ " already exists"
  | .notWritten cause => "Failed to write " ++ Config.fileName ++ ": " ++ cause.message

structure Outcome where
  workspace : Workspace
  events : List Event
  result : Except Error Result

def open? (workspace : Workspace) (options : Project.Options) (changed : Option String) :
    Except Error Project :=
  (Project.load workspace.tree workspace.directory options changed).mapError .project

def backend? (launch : Launcher) (project : Project) (apply : Bool) :
    Except Error (Option (Backend Workspace)) :=
  if apply then
    match project.backend with
    | some command => .ok (some (Program.backend launch project.root command))
    | none => .error .noBackend
  else .ok none

def sync (launch : Launcher) (options : Project.Options) (changed : Option String) (apply : Bool)
    (workspace : Workspace) : Outcome :=
  let settled := do
    let project ← open? workspace options changed
    return (project, ← backend? launch project apply)
  match settled with
  | .error error => ⟨workspace, [], .error error⟩
  | .ok (project, backend) =>
    let (workspace, events, summary) := project.perform backend workspace
    ⟨workspace, events, .ok (.ofPass summary)⟩

def families (options : Project.Options) (workspace : Workspace) : Outcome :=
  match open? workspace options none with
  | .error error => ⟨workspace, [], .error error⟩
  | .ok project =>
    let (workspace, scan) := project.survey workspace
    ⟨workspace, [], .ok (.plain (.listing ⟨project.root, project.registry, project.discover scan⟩))⟩

def configure (workspace : Workspace) : Outcome :=
  let file := Path.ofText Config.fileName
  if workspace.tree.hasEntry workspace.directory file then
    ⟨workspace, [], .error .alreadyThere⟩
  else
    match Workspace.storage.write file (Config.initial.render ++ "\n") workspace with
    | (workspace, .ok ()) => ⟨workspace, [], .ok (.plain (.made file))⟩
    | (workspace, .error fault) => ⟨workspace, [], .error (.notWritten fault)⟩

def run (launch : Launcher) (invocation : Invocation) (workspace : Workspace) : Outcome :=
  match invocation with
  | .overview => ⟨workspace, [], .ok (.plain .overview)⟩
  | .sync options changed apply => sync launch options changed apply workspace
  | .families options => families options workspace
  | .configure => configure workspace

def Invocation.isVerbose : Invocation → Bool
  | .sync options _ _ => options.verbose
  | .families options => options.verbose
  | _ => false

end LocaleFamilies.CommandLine
