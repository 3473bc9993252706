import LocaleFamilies.Proofs.Translation.Overlooked
import LocaleFamilies.Proofs.Translation.Trace
import LocaleFamilies.Translation.Session

/-! What a pass does to what was there before. The events of a pass are followed one by one while the
tree grows by files: a new file is written to what its path led to before the pass, a directory that
the scan lists is not made again, and the backend changes files in update requests only. -/
namespace LocaleFamilies

/-- A backend that leaves files alone when it is asked for new content. -/
def Backend.OnlyAnswers (backend : Backend Workspace) : Prop :=
  ∀ request workspace, (backend.create request workspace).1.tree = workspace.tree ∧
    (backend.create request workspace).1.directory = workspace.directory

/-- A later workspace differs from a workspace in what files hold and in new files only. -/
def Workspace.Grows (workspace later : Workspace) : Prop :=
  workspace.tree.Grows later.tree ∧ later.directory = workspace.directory

private theorem Workspace.grows_write (workspace : Workspace) (path : Path) (content : String) :
    let later := (storage.write path content workspace).1
    workspace.Grows later ∧ ∀ location held, workspace.tree.get? location = some held →
      later.tree.get? location = some held ∨
        held.IsFile ∧ workspace.tree.entryAt workspace.directory true path = .ok (location, held) := by
  simp only [storage, adopt]
  split
  · rename_i tree written
    obtain ⟨grows, others⟩ := FileTree.grows_write written
    exact ⟨⟨grows, rfl⟩, others⟩
  · exact ⟨⟨.refl _, rfl⟩, fun _ _ found => Or.inl found⟩

/-- In a run of events, an event happens in a state of the workspace. -/
def Backend.Meets (backend : Backend Workspace) (start : Workspace) (events : List Event)
    (event : Event) (before : Workspace) : Prop :=
  ∃ earlier later, events = earlier ++ event :: later ∧
    before = Event.effects Workspace.storage backend start earlier

/-- Update requests only rewrite files and add new ones. -/
def Backend.UpdatesFiles (backend : Backend Workspace) (start : Workspace) (events : List Event) :
    Prop :=
  ∀ request before, backend.Meets start events (.asked request) before →
    request.mode = .update → before.Grows (backend.update request before).1

section Run

variable {backend : Backend Workspace} {start before : Workspace} {events : List Event}
  {event : Event} {location : Location} {entry : Entry}

theorem Backend.Meets.append (meets : backend.Meets start events event before)
    (more : List Event) : backend.Meets start (events ++ more) event before := by
  obtain ⟨earlier, later, rfl, state⟩ := meets
  exact ⟨earlier, later ++ more, by simp, state⟩

theorem Backend.meets_last (start : Workspace) (events : List Event) (event : Event) :
    backend.Meets start (events ++ [event]) event
      (Event.effects Workspace.storage backend start events) :=
  ⟨events, [], rfl, rfl⟩

theorem Event.effects_concat (start : Workspace) (events : List Event) (event : Event) :
    Event.effects Workspace.storage backend start (events ++ [event]) =
      event.effect Workspace.storage backend (Event.effects Workspace.storage backend start events) := by
  rw [Event.effects, List.foldl_append]
  rfl

/-- An entry that is not as it was has been changed by one of the events. -/
theorem Event.exists_change (old : start.tree.get? location = some entry)
    (changed : (Event.effects Workspace.storage backend start events).tree.get? location ≠ some entry) :
    ∃ event before, backend.Meets start events event before ∧
      before.tree.get? location = some entry ∧
        (event.effect Workspace.storage backend before).tree.get? location ≠ some entry := by
  induction events using List.reverseRecOn with
  | nil => exact absurd old changed
  | append_singleton events event ih =>
    by_cases kept : (Event.effects Workspace.storage backend start events).tree.get? location =
        some entry
    · rw [Event.effects_concat] at changed
      exact ⟨event, _, Backend.meets_last start events event, kept, changed⟩
    · obtain ⟨other, before, meets, rest⟩ := ih kept
      exact ⟨other, before, meets.append [event], rest⟩

variable (answers : backend.OnlyAnswers)

include answers

/-- An event changes an entry only if it is an update request, or if it writes to a path that leads to
the entry, which then is a file. -/
theorem Event.change_cases (old : before.tree.get? location = some entry)
    (changed : (event.effect Workspace.storage backend before).tree.get? location ≠ some entry) :
    (∃ request, event = .asked request ∧ request.mode = .update ∧
        (backend.update request before).1.tree.get? location ≠ some entry) ∨
      ∃ path content, event = .wrote path content ∧ entry.IsFile ∧
        before.tree.entryAt before.directory true path = .ok (location, entry) := by
  cases event with
  | asked request =>
    cases mode : request.mode with
    | create =>
      simp only [Event.effect, mode, (answers request before).1] at changed
      exact absurd old changed
    | update =>
      simp only [Event.effect, mode] at changed
      exact Or.inl ⟨request, rfl, mode, changed⟩
  | prepared directory => exact absurd (FileTree.get?_makeDirectories old) changed
  | wrote path content =>
    obtain ⟨file, led⟩ := ((Workspace.grows_write before path content).2 _ _ old).resolve_left changed
    exact Or.inr ⟨path, content, rfl, file, led⟩

private theorem grows_effect (event : Event) (grown : start.Grows before)
    (made : ∀ directory, event = .prepared directory → ∃ left place, start.tree.Arrives
      FileTree.linkLimit (FileTree.origin start.directory directory) (FileTree.steps directory)
      left place)
    (in_place : ∀ request, event = .asked request → request.mode = .update →
      before.Grows (backend.update request before).1) :
    before.Grows (event.effect Workspace.storage backend before) := by
  have same {other : Workspace} (tree : other.tree = before.tree)
      (directory : other.directory = before.directory) : before.Grows other :=
    ⟨tree ▸ .refl _, directory⟩
  cases event with
  | asked request =>
    cases mode : request.mode with
    | create =>
      simp only [Event.effect, mode]
      exact same (answers request before).1 (answers request before).2
    | update =>
      simp only [Event.effect, mode]
      exact in_place request rfl mode
  | prepared directory =>
    obtain ⟨left, place, arrives⟩ := made directory rfl
    have later := grown.1.arrives arrives
    rw [← grown.2] at later
    exact same (FileTree.makeDirectories_of_arrives later) rfl
  | wrote path content => exact (Workspace.grows_write before path content).1

/-- A run of events lets the tree grow, if the directories for new files are there and updates only
rewrite files and add new ones. -/
theorem grows_effects
    (made : ∀ directory, .prepared directory ∈ events → ∃ left place, start.tree.Arrives
      FileTree.linkLimit (FileTree.origin start.directory directory) (FileTree.steps directory)
      left place)
    (in_place : backend.UpdatesFiles start events) :
    start.Grows (Event.effects Workspace.storage backend start events) := by
  induction events using List.reverseRecOn with
  | nil => exact ⟨.refl _, rfl⟩
  | append_singleton events event ih =>
    have grown := ih (fun directory member => made directory (List.mem_append_left _ member))
      (fun request before meets => in_place request before (meets.append [event]))
    have grows := grows_effect answers event grown
      (fun directory same => made directory (by simp [same]))
      (fun request same => in_place request _ (same ▸ Backend.meets_last start events event))
    rw [Event.effects_concat]
    exact ⟨grown.1.trans grows.1, grows.2.trans grown.2⟩

end Run

private theorem Workspace.Grows.entryAt {start later : Workspace} (grows : start.Grows later)
    {path : Path} {location : Location} {entry held : Entry}
    (old : start.tree.get? location = some entry) (file : held.IsFile)
    (found : later.tree.entryAt later.directory true path = .ok (location, held)) :
    start.tree.entryAt start.directory true path = .ok (location, entry) := by
  obtain ⟨short, no_zero, some_byte, leads⟩ :=
    FileTree.lookup_eq_ok_iff.mp (FileTree.entryAt_eq_ok_iff.mp found)
  rw [grows.2] at leads
  exact FileTree.entryAt_eq_ok_iff.mpr (FileTree.lookup_eq_ok_iff.mpr
    ⟨short, no_zero, some_byte, grows.1.leads leads file old⟩)

namespace Project

variable (project : Project) (backend : Backend Workspace) (workspace : Workspace)

theorem survey_eq : (project.survey workspace).1.tree = workspace.tree ∧
    (project.survey workspace).1.directory = workspace.directory := by
  have warned (warnings : List String) (workspace : Workspace) :
      (warnings.foldl Workspace.warn workspace).tree = workspace.tree ∧
        (warnings.foldl Workspace.warn workspace).directory = workspace.directory := by
    induction warnings generalizing workspace with
    | nil => exact ⟨rfl, rfl⟩
    | cons warning rest ih => exact ih (workspace.warn warning)
  unfold survey
  split
  · exact warned _ workspace
  · exact ⟨rfl, rfl⟩

/-- A pass with a backend does what its events do, and each event belongs to one of its plans. -/
theorem perform_eq_effects :
    let run := project.perform (some backend) workspace
    run.1 = Event.effects Workspace.storage backend (project.survey workspace).1 run.2.1 ∧
      ∀ event ∈ run.2.1, ∃ plan ∈ project.plans workspace, plan.Allows project.registry event := by
  intro run
  obtain ⟨more, events, state, all⟩ := project.follows_apply
    (project.scan workspace.tree workspace.directory) Workspace.storage backend
    (project.survey workspace).1
  have events : run.2.1 = more := events
  rw [events]
  exact ⟨state, all⟩

variable {project backend workspace}

theorem Lists.exists_arrives {path : Path} (lists : project.Lists workspace path.components) :
    ∃ left place, workspace.tree.Arrives FileTree.linkLimit
      (FileTree.origin workspace.directory path) (FileTree.steps path) left place := by
  obtain ⟨start, -, spelled, location, listed, same⟩ := lists
  obtain ⟨left, arrives⟩ := listed.arrives
  have whole : path.components = spelled.components ++ [] := by rw [same, List.append_nil]
  rw [← FileTree.origin_of_append _ listed.some_byte whole] at arrives
  refine ⟨left, location, arrives.congr ?_⟩
  rw [FileTree.filter_steps, FileTree.filter_steps, same]

section Pass

variable {path directory : Path} {content : String}

/-- A new file belongs to a plan, and what its path holds before the pass is overlooked. -/
theorem exists_target_of_wrote
    (written : .wrote path content ∈ (project.perform (some backend) workspace).2.1) :
    ∃ plan ∈ project.plans workspace, ∃ target ∈ plan.create, target.path = path ∧
      ∀ location entry,
        workspace.tree.entryAt workspace.directory false path = .ok (location, entry) →
          project.Overlooks workspace plan target entry := by
  obtain ⟨plan, planned, allows⟩ := (project.perform_eq_effects backend workspace).2 _ written
  cases allows with
  | @wrote target _ created =>
    exact ⟨plan, planned, target, created, rfl, fun location entry found =>
      overlooks planned created found⟩

theorem IsRegular.lists_prepared (regular : project.IsRegular workspace)
    (prepared : .prepared directory ∈ (project.perform (some backend) workspace).2.1) :
    project.Lists workspace directory.components := by
  obtain ⟨plan, planned, allows⟩ := (project.perform_eq_effects backend workspace).2 _ prepared
  cases allows with
  | prepared created parent => exact regular.lists_parent planned created parent

/-- What is there before a pass is as it was after it, or an event has changed it: an update request, or
a new file that was written to a path leading to it. -/
theorem kept_or_changed (answers : backend.OnlyAnswers) {location : Location} {entry : Entry}
    (old : workspace.tree.get? location = some entry) :
    let run := project.perform (some backend) workspace
    run.1.tree.get? location = some entry ∨
      (∃ request before, backend.Meets (project.survey workspace).1 run.2.1 (.asked request) before ∧
        request.mode = .update ∧ before.tree.get? location = some entry ∧
          (backend.update request before).1.tree.get? location ≠ some entry) ∨
      ∃ path content before,
        backend.Meets (project.survey workspace).1 run.2.1 (.wrote path content) before ∧
          entry.IsFile ∧ before.tree.entryAt before.directory true path = .ok (location, entry) := by
  intro run
  refine or_iff_not_imp_left.mpr fun changed => ?_
  rw [(project.perform_eq_effects backend workspace).1] at changed
  rw [← (project.survey_eq workspace).1] at old
  obtain ⟨event, before, meets, held, lost⟩ := Event.exists_change old changed
  rcases Event.change_cases answers held lost with
    ⟨request, rfl, update, updated⟩ | ⟨path, content, rfl, led⟩
  · exact Or.inl ⟨request, before, meets, update, held, updated⟩
  · exact Or.inr ⟨path, content, before, meets, led⟩

/-- In a regular project, while updates only rewrite files and add new ones, a path that leads to an
entry when it is written led to it before the pass. -/
theorem IsRegular.led_before (regular : project.IsRegular workspace) (answers : backend.OnlyAnswers)
    (in_place : backend.UpdatesFiles (project.survey workspace).1
      (project.perform (some backend) workspace).2.1)
    {before : Workspace} {location : Location} {entry held : Entry}
    (meets : backend.Meets (project.survey workspace).1
      (project.perform (some backend) workspace).2.1 (.wrote path content) before)
    (old : workspace.tree.get? location = some entry) (file : held.IsFile)
    (led : before.tree.entryAt before.directory true path = .ok (location, held)) :
    workspace.tree.entryAt workspace.directory true path = .ok (location, entry) := by
  obtain ⟨tree, directory⟩ := project.survey_eq workspace
  obtain ⟨earlier, later, whole, rfl⟩ := meets
  have grown : (project.survey workspace).1.Grows
      (Event.effects Workspace.storage backend (project.survey workspace).1 earlier) :=
    grows_effects answers (fun directory' prepared => by
      have member : .prepared directory' ∈ (project.perform (some backend) workspace).2.1 := by
        rw [whole]
        exact List.mem_append_left _ prepared
      rw [tree, directory]
      exact (regular.lists_prepared member).exists_arrives)
    (fun request before meets => in_place request before (whole ▸ meets.append _))
  rw [← tree] at old
  rw [← tree, ← directory]
  exact grown.entryAt old file led

variable (project workspace) in
/-- New files are written to paths that hold nothing or something that the scan overlooks. Whatever was
there stays as it was, unless an update request changes it or a new file is written to a path that leads
to it. In a regular project, while updates only rewrite files and add new ones, the path led to it before
the pass. -/
theorem overwrites_only_overlooked (answers : backend.OnlyAnswers) :
    let run := project.perform (some backend) workspace
    let start := (project.survey workspace).1
    (∀ path content, .wrote path content ∈ run.2.1 →
      ∃ plan ∈ project.plans workspace, ∃ target ∈ plan.create, target.path = path ∧
        ∀ location entry,
          workspace.tree.entryAt workspace.directory false path = .ok (location, entry) →
            project.Overlooks workspace plan target entry) ∧
    ∀ location entry, workspace.tree.get? location = some entry →
      (run.1.tree.get? location = some entry ∨
        (∃ request before, backend.Meets start run.2.1 (.asked request) before ∧
          request.mode = .update ∧ before.tree.get? location = some entry ∧
            (backend.update request before).1.tree.get? location ≠ some entry) ∨
        ∃ path content before, backend.Meets start run.2.1 (.wrote path content) before ∧
          entry.IsFile ∧ before.tree.entryAt before.directory true path = .ok (location, entry)) ∧
      (project.IsRegular workspace → backend.UpdatesFiles start run.2.1 →
        ∀ path content before held, backend.Meets start run.2.1 (.wrote path content) before →
          held.IsFile → before.tree.entryAt before.directory true path = .ok (location, held) →
            workspace.tree.entryAt workspace.directory true path = .ok (location, entry)) :=
  ⟨fun _ _ written => exists_target_of_wrote written, fun _ _ old =>
    ⟨kept_or_changed answers old, fun regular in_place _ _ _ _ meets file led =>
      regular.led_before answers in_place meets old file led⟩⟩

end Pass

end Project

section Documents

def Backend.uniform (text : String) : Backend Workspace where
  name := "uniform"
  create request workspace :=
    (workspace, .ok (.ofList (request.targetLocales.map fun locale => (locale, text))))
  update _ workspace := (workspace, .ok ())

theorem Backend.onlyAnswers_uniform (text : String) : (uniform text).OnlyAnswers :=
  fun _ _ => ⟨rfl, rfl⟩

def Workspace.ofDocuments (entries : List (String × Entry)) : Workspace where
  tree := entries.foldl
    (fun tree entry => tree.put [Bytes.ofText "docs", Bytes.ofText entry.1] entry.2)
    (FileTree.empty.put [Bytes.ofText "docs"] .directory)
  directory := []
  errorOutput := []

def Project.ofDocuments (ignores : List String) : Project where
  root := Path.ofText "/"
  registry := .bilingual
  selection := ⟨[Path.ofText "docs"], ["md"], ignores⟩
  changes := .fullScan
  backend := none
  verbose := false

/-- Files that were there are overwritten: one that is ignored, one that a link leads to, and one that
is read as the Chinese file of the directory. -/
theorem overwrites_overlooked :
    let file (text : String) := Entry.file (Bytes.ofText text) false
    let overwrites (ignores : List String) (documents : List (String × Entry))
        (path victim : String) : Prop :=
      let workspace := Workspace.ofDocuments documents
      let run := (Project.ofDocuments ignores).perform (some (.uniform "new")) workspace
      let location := [Bytes.ofText "docs", Bytes.ofText victim]
      .wrote (Path.ofText path) "new" ∈ run.2.1 ∧
        (workspace.tree.entryAt workspace.directory false (Path.ofText path)).isOk = true ∧
        workspace.tree.get? location = some (file "old") ∧
        run.1.tree.get? location = some (file "new")
    (Backend.uniform "new").OnlyAnswers ∧
      overwrites ["docs/intro.zh.md"] [("intro.md", file "old"), ("intro.zh.md", file "old")]
        "/docs/intro.zh.md" "intro.zh.md" ∧
      overwrites [] [("intro.md", file "old"), ("intro.zh.md", .link (Path.ofText "notes.txt")),
        ("notes.txt", file "old")] "/docs/intro.zh.md" "notes.txt" ∧
      overwrites [] [("zh.md", file "old"), ("zh.zh.md", file "old")] "/docs/zh.md" "zh.md" :=
  ⟨Backend.onlyAnswers_uniform "new", by decide, by decide, by decide⟩

/-- The new Chinese file leaves the English one as it was. -/
theorem overwrites_only_overlooked_intro :
    let file (text : String) := Entry.file (Bytes.ofText text) false
    let workspace := Workspace.ofDocuments [("intro.md", file "old")]
    let run := (Project.ofDocuments []).perform (some (.uniform "new")) workspace
    (Backend.uniform "new").OnlyAnswers ∧
      .wrote (Path.ofText "/docs/intro.zh.md") "new" ∈ run.2.1 ∧
      run.1.tree.get? [Bytes.ofText "docs", Bytes.ofText "intro.md"] = some (file "old") := by
  intro file workspace run
  have answers := Backend.onlyAnswers_uniform "new"
  have events : run.2.1 = [
      .asked ⟨.create, [Path.ofText "/docs/intro.md"], "en", "English", ["zh"], ["Chinese"]⟩,
      .prepared (Path.ofText "/docs"), .wrote (Path.ofText "/docs/intro.zh.md") "new"] := by
    decide
  have member {event : Event} {before : Workspace}
      (meets : (Backend.uniform "new").Meets ((Project.ofDocuments []).survey workspace).1 run.2.1
        event before) : event ∈ run.2.1 := by
    obtain ⟨earlier, later, whole, -⟩ := meets
    simp [whole]
  have no_update {request : Request} (asked : .asked request ∈ run.2.1) : request.mode ≠ .update := by
    rw [events] at asked
    simp only [List.mem_cons, Event.asked.injEq, reduceCtorEq, List.not_mem_nil, or_false] at asked
    rw [asked]
    decide
  have regular : (Project.ofDocuments []).IsRegular workspace := by
    refine ⟨by decide, by decide, fun start listed location entry found => ?_⟩
    have opened : workspace.tree.entryAt workspace.directory true (Path.ofText "/docs") =
        .ok ([Bytes.ofText "docs"], .directory) := rfl
    have started : start = Path.ofText "/docs" := List.mem_singleton.mp listed
    rw [started, opened] at found
    cases found
    rfl
  refine ⟨answers, by rw [events]; simp, ?_⟩
  have old : workspace.tree.get? [Bytes.ofText "docs", Bytes.ofText "intro.md"] =
      some (file "old") := by decide
  obtain ⟨spared, before_run⟩ :=
    (Project.overwrites_only_overlooked (.ofDocuments []) workspace answers).2 _ _ old
  rcases spared with same | ⟨request, before, meets, update, -⟩ |
    ⟨path, content, before, meets, written, led⟩
  · exact same
  · exact absurd update (no_update (member meets))
  · have led := before_run regular
      (fun request before meets update => absurd update (no_update (member meets)))
      path content before _ meets written led
    have written := member meets
    rw [events] at written
    simp only [List.mem_cons, Event.wrote.injEq, reduceCtorEq, List.not_mem_nil, or_false,
      false_or] at written
    rw [written.1] at led
    cases led

end Documents

end LocaleFamilies
