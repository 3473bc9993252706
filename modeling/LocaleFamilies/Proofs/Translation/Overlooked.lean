import LocaleFamilies.Proofs.Scan.Wanted
import LocaleFamilies.Proofs.Translation.Destination
import LocaleFamilies.Workspace

/-! What a scan overlooks. A file is planned where the scan has found none, and nothing else is asked
before it is written. So what is at the path already is something that the scan does not count: no
file, a file that is ignored, or a file that is read as a member of another family. Only in projects
whose files or directories are not as usual there is more. -/
namespace LocaleFamilies

namespace Project

variable (project : Project) (workspace : Workspace)

def starts : List Path := project.selection.directories.map project.root.join

def ignores : List Ignore :=
  project.selection.ignores.filterMap fun entry => (Ignore.read project.root entry).toOption

def files : List Path := (project.scan workspace.tree workspace.directory).files

def plans : List Plan :=
  (Grouping.of project.registry (project.files workspace)).plans project.registry project.changes

/-- Some components are those of a directory that the scan lists. -/
def Lists (components : List Component) : Prop :=
  ∃ start ∈ project.starts, ∃ path location,
    workspace.tree.Lists workspace.directory start path location ∧ path.components = components

/-- The scan comes upon a path, and an ignore entry covers what it is called there. -/
def Ignores (path : Path) : Prop :=
  ∃ start ∈ project.starts, ∃ spelled entry,
    .found spelled entry ∈ Scan.visits workspace.tree workspace.directory start ∧
      spelled.components = path.components ∧ ∃ ignore ∈ project.ignores, ignore.covers spelled = true

/-- The codes can be told from the rest of a name, the files have names that do not start with two
dots, and the scan starts at directories. -/
structure IsRegular : Prop where
  plain : project.registry.HasPlainCodes
  documents : ∀ path ∈ project.files workspace, path.IsDocument
  directories : ∀ start ∈ project.starts, ∀ location entry,
    workspace.tree.entryAt workspace.directory true start = .ok (location, entry) →
      entry = .directory

/-- Why the scan does not count an entry at the path of a new file as that file. -/
inductive Overlooks (plan : Plan) (target : Target) (entry : Entry) : Prop
  | other : ¬ entry.IsFile → Overlooks plan target entry
  | ignored : project.Ignores workspace target.path → Overlooks plan target entry
  /-- The path shows another family or locale than it is meant for. -/
  | misread : ¬ plan.ReadsBack project.registry target →
    (project.IsRegular workspace → plan.IsMasked project.registry target) →
    Overlooks plan target entry
  | renamed : target.path.extension? ≠ plan.source.path.extension? →
    ¬ project.IsRegular workspace → Overlooks plan target entry
  | unlisted : ¬ project.Lists workspace target.path.components.dropLast →
    ¬ project.IsRegular workspace → Overlooks plan target entry

variable {project workspace} {path : Path} {plan : Plan} {target : Target}

theorem mem_files_iff : path ∈ project.files workspace ↔
    (∃ start ∈ project.starts, ∃ entry : Entry, entry.IsFile ∧
      .found path entry ∈ Scan.visits workspace.tree workspace.directory start) ∧
    Scan.hasExtension project.selection.extensions path = true ∧
      ∀ ignore ∈ project.ignores, ¬ ignore.covers path = true := by
  show path ∈ project.starts.flatMap (fun start =>
    (Scan.visits workspace.tree workspace.directory start).filterMap
      (Scan.file? project.selection.extensions project.ignores)) ↔ _
  simp only [List.mem_flatMap, List.mem_filterMap, Scan.file?_eq_some_iff]
  constructor
  · rintro ⟨start, listed, visit, visited, ⟨entry, file, rfl⟩, both⟩
    exact ⟨⟨start, listed, entry, file, visited⟩, both⟩
  · rintro ⟨⟨start, listed, entry, file, visited⟩, both⟩
    exact ⟨start, listed, _, visited, ⟨entry, file, rfl⟩, both⟩

section Beside

variable (regular : project.IsRegular workspace)

include regular

theorem IsRegular.lists (member : path ∈ project.files workspace) :
    project.Lists workspace path.components.dropLast := by
  obtain ⟨⟨start, listed, entry, ⟨content, runnable, rfl⟩, found⟩, -⟩ := mem_files_iff.mp member
  rcases FileTree.lists_of_found found with ⟨top, opened⟩ | ⟨parent, location, name, lists, rfl, held⟩
  · have directory := regular.directories start listed _ _ opened
    cases directory
  · obtain ⟨-, named⟩ := FileTree.directory_of_get? held
    refine ⟨start, listed, parent, location, lists, ?_⟩
    rw [FileTree.components_join_name parent named, List.dropLast_concat]

variable (planned : plan ∈ project.plans workspace) (created : target ∈ plan.create)

include planned created

theorem IsRegular.readsBack_or_masked :
    plan.ReadsBack project.registry target ∨ plan.IsMasked project.registry target := by
  obtain ⟨family, source, found, elected, rfl⟩ := Grouping.exists_family_of_mem_plans planned
  by_cases masked : (Plan.make project.registry family source).IsMasked project.registry target
  · exact Or.inr masked
  · have member := Grouping.mem_families_of_get? _ _ found
    exact Or.inl
      ((Plan.readsBack_iff regular.plain regular.documents member elected created).mpr masked)

/-- In a regular project, a new file lies beside its source and has its extension. -/
theorem IsRegular.beside : target.path.extension? = plan.source.path.extension? ∧
    target.path.components.dropLast = plan.source.path.components.dropLast := by
  obtain ⟨family, source, found, elected, rfl⟩ := Grouping.exists_family_of_mem_plans planned
  have member := Grouping.mem_families_of_get? _ _ found
  obtain ⟨listed, shown⟩ := Grouping.source_of_family member elected
  obtain ⟨supported, -, placed⟩ := (Plan.mem_create_iff _ family source target).mp created
  rw [placed]
  exact Plan.destination_beside regular.plain (regular.documents _ listed)
    (Plan.isTrim_family_key regular.documents member) (congrArg Prod.fst shown) supported

theorem IsRegular.lists_target : project.Lists workspace target.path.components.dropLast := by
  rw [(regular.beside planned created).2]
  exact regular.lists (Grouping.source_of_plan planned).1

theorem IsRegular.lists_parent {directory : Path} (parent : target.path.parent? = some directory) :
    project.Lists workspace directory.components := by
  have member := (Grouping.source_of_plan planned).1
  have extended := (regular.documents _ member).extension
  rw [← (regular.beside planned created).1] at extended
  obtain ⟨stem, extension, name⟩ := Path.exists_hasName extended
  obtain ⟨directory', parent', above, -⟩ := Path.exists_parent name.named
  rw [parent, Option.some.injEq] at parent'
  rw [parent', above]
  exact regular.lists_target planned created

end Beside

variable (planned : plan ∈ project.plans workspace) (created : target ∈ plan.create)
  {location : Location} {entry : Entry}
  (found : workspace.tree.entryAt workspace.directory false target.path = .ok (location, entry))

include planned created found

/-- The scan comes upon a file that is at the path of a new one, if it lists the directory. -/
private theorem exists_visit (file : entry.IsFile)
    (same : target.path.extension? = plan.source.path.extension?)
    (listed : project.Lists workspace target.path.components.dropLast) :
    ∃ start ∈ project.starts, ∃ spelled,
      .found spelled entry ∈ Scan.visits workspace.tree workspace.directory start ∧
        spelled.components = target.path.components := by
  obtain ⟨member, -, -⟩ := Grouping.source_of_plan planned
  obtain ⟨-, wanted, -⟩ := mem_files_iff.mp member
  have extended := Scan.extension?_isSome wanted
  obtain ⟨stem, extension, name⟩ := Path.exists_hasName extended
  have ends : ∃ opening stretch, target.path.EndsIn opening stretch := by
    obtain ⟨family, source, -, -, rfl⟩ := Grouping.exists_family_of_mem_plans planned
    obtain ⟨-, -, placed⟩ := (Plan.mem_create_iff _ family source target).mp created
    rw [placed]
    exact Plan.exists_endsIn_destination family.key name target.locale
  rw [← same] at extended
  obtain ⟨stem', extension', name'⟩ := Path.exists_hasName extended
  have inside := name'.components_eq
  obtain ⟨start, started, parent, place, lists, above⟩ := listed
  rw [← above] at inside
  obtain ⟨content, runnable, rfl⟩ := file
  have held := lists.get?_of_entryAt ends inside found
  refine ⟨start, started, _, lists.found held, ?_⟩
  rw [FileTree.components_join_name parent (FileTree.directory_of_get? held).2, inside]

/-- Whatever is at the path of a new file is overlooked by the scan. -/
theorem overlooks : project.Overlooks workspace plan target entry := by
  by_cases file : entry.IsFile
  swap
  · exact .other file
  by_cases read : plan.ReadsBack project.registry target
  swap
  · exact .misread read fun regular =>
      (regular.readsBack_or_masked planned created).resolve_left read
  by_cases same : target.path.extension? = plan.source.path.extension?
  swap
  · exact .renamed same fun regular => same (regular.beside planned created).1
  by_cases listed : project.Lists workspace target.path.components.dropLast
  swap
  · exact .unlisted listed fun regular => listed (regular.lists_target planned created)
  obtain ⟨start, started, spelled, visited, written⟩ :=
    exists_visit planned created found file same listed
  refine .ignored ⟨start, started, spelled, entry, visited, written, ?_⟩
  by_contra uncovered
  have clear : ∀ ignore ∈ project.ignores, ¬ ignore.covers spelled = true :=
    fun ignore member covers => uncovered ⟨ignore, member, covers⟩
  -- Without an ignore entry the scan finds the file, and its slot is not empty.
  obtain ⟨member, -, -⟩ := Grouping.source_of_plan planned
  obtain ⟨-, wanted, -⟩ := mem_files_iff.mp member
  have extended := Scan.extension?_isSome wanted
  rw [← same] at extended
  obtain ⟨stem, extension, name⟩ := Path.exists_hasName extended
  have extensions : spelled.extension? = plan.source.path.extension? := by
    rw [← same, Path.extension?, Path.extension?, Path.fileName?, Path.fileName?, written]
  rw [← Scan.hasExtension_congr _ extensions] at wanted
  have counted := mem_files_iff.mpr ⟨⟨start, started, entry, file, visited⟩, wanted, clear⟩
  have taken := (Grouping.member?_ne_none_iff project.registry _ _).mpr ⟨spelled, counted, rfl⟩
  rw [← project.registry.slot_congr name.named written.symm, show
    project.registry.slot target.path = plan.slotOf target from read] at taken
  exact taken (Grouping.member?_of_mem_create planned created)

end Project

end LocaleFamilies
