import LocaleFamilies.Translation.Backend
import LocaleFamilies.Translation.Plan

/-! Executing the plan of one family. Content for the missing locales is asked for at once and put at
the planned places one by one; then, if nothing has failed, the existing files are brought up to
date. The first failure ends the work on the family. Everything done is kept as a list of events. -/
namespace LocaleFamilies

universe u

inductive Event
  | asked (request : Request)
  | prepared (directory : Path)
  | wrote (path : Path) (content : String)
  deriving DecidableEq

def Event.request? : Event → Option Request
  | asked request => some request
  | _ => none

inductive Failure
  | directory (path : Path) (cause : Fault)
  | file (path : Path) (cause : Fault)
  /-- The backend gives up; the text is its own. -/
  | backend (message : String)
  deriving DecidableEq

def Failure.message : Failure → String
  | directory path cause =>
    "Failed to create directory: " ++ path.display ++ ": " ++ cause.message
  | file path cause => "Failed to write file: " ++ path.display ++ ": " ++ cause.message
  | backend message => message

inductive Warning
  /-- The backend has no content for a locale that it was asked for. -/
  | noContent (backend : String) (locale : Code)
  /-- The backend has content for a locale that it was not asked for. -/
  | unrequested (backend : String) (locale : Code)
  deriving DecidableEq

def Warning.message : Warning → String
  | noContent backend locale =>
    "backend '" ++ backend ++ "' returned no content for '" ++ locale ++ "'"
  | unrequested backend locale =>
    "backend '" ++ backend ++ "' returned unrequested locale '" ++ locale ++ "', ignored"

structure Work (σ : Type u) where
  state : σ
  events : List Event
  created : List Path
  warnings : List Warning
  failure : Option Failure

namespace Plan

def request (plan : Plan) (registry : Registry) (mode : Mode) (locales : List Code)
    (files : List Path) : Request where
  mode := mode
  files := files
  sourceLocale := plan.source.locale
  sourceName := registry.nameOf plan.source.locale
  targetLocales := locales
  targetNames := locales.map registry.nameOf

def creation (plan : Plan) (registry : Registry) : Request :=
  plan.request registry .create plan.createLocales [plan.source.path]

def refresh (plan : Plan) (registry : Registry) : Request :=
  plan.request registry .update plan.updateLocales
    (plan.source.path :: plan.update.map (·.path))

end Plan

namespace Work

variable {σ : Type u}

def start (state : σ) : Work σ := ⟨state, [], [], [], none⟩

def write (storage : Storage σ) (path : Path) (content : String) (work : Work σ) : Work σ :=
  let prepared : Work σ :=
    match path.parent? with
    | none => work
    | some directory =>
      let (state, result) := storage.makeDirectories directory work.state
      { work with
        state := state
        events := work.events ++ [.prepared directory]
        failure :=
          match result with
          | .ok () => none
          | .error cause => some (.directory directory cause) }
  if prepared.failure.isSome then prepared
  else
    let (state, result) := storage.write path content prepared.state
    let written : Work σ := { prepared with
      state := state
      events := prepared.events ++ [.wrote path content] }
    match result with
    | .ok () => { written with created := written.created ++ [path] }
    | .error cause => { written with failure := some (.file path cause) }

/-- Puts content at the planned places, and warns of what is missing and of what is left over. -/
def place (storage : Storage σ) (backend : String) :
    List Target → Content → Work σ → Work σ
  | [], content, work =>
    { work with warnings := work.warnings ++ content.keys.map (.unrequested backend) }
  | target :: rest, content, work =>
    match content.get? target.locale with
    | none =>
      place storage backend rest content
        { work with warnings := work.warnings ++ [.noContent backend target.locale] }
    | some text =>
      let work := work.write storage target.path text
      if work.failure.isSome then work
      else place storage backend rest (content.erase target.locale) work

def create (storage : Storage σ) (backend : Backend σ) (registry : Registry) (plan : Plan)
    (work : Work σ) : Work σ :=
  if plan.create.isEmpty then work
  else
    let request := plan.creation registry
    let (state, answer) := backend.create request work.state
    let asked : Work σ := { work with state := state, events := work.events ++ [.asked request] }
    match answer with
    | .ok content => place storage backend.name plan.create content asked
    | .error message => { asked with failure := some (.backend message) }

def update (backend : Backend σ) (registry : Registry) (plan : Plan) (work : Work σ) : Work σ :=
  if work.failure.isSome || plan.update.isEmpty then work
  else
    let request := plan.refresh registry
    let (state, answer) := backend.update request work.state
    let asked : Work σ := { work with state := state, events := work.events ++ [.asked request] }
    match answer with
    | .ok () => asked
    | .error message => { asked with failure := some (.backend message) }

end Work

namespace Plan

def execute {σ : Type u} (plan : Plan) (storage : Storage σ) (backend : Backend σ)
    (registry : Registry) (state : σ) : Work σ :=
  ((Work.start state).create storage backend registry plan).update backend registry plan

end Plan

end LocaleFamilies
