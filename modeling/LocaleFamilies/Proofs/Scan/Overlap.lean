import LocaleFamilies.Proofs.Family.Accounting
import LocaleFamilies.Proofs.Scan.Exactness
import LocaleFamilies.Translation.Pass
import Mathlib.Data.List.Dedup

/-! How often a pass comes upon a file. Every scan directory is walked by itself, and a walk comes upon a
file no more than once. So a file is listed once for each of the directories that find it: a file that
two of them find is counted twice, and can be reported as displaced by itself. -/
namespace LocaleFamilies

namespace FileTree

variable {tree : FileTree} {directory location : Location} {start path : Path} {entry : Entry}
  {way : List Bytes}

def locate? (tree : FileTree) (directory : Location) (path : Path) : Option Location :=
  match tree.travel false linkLimit (origin directory path) (steps path) with
  | .ok (.occupied location _) => some location
  | _ => none

theorem Leads.locate? (leads : Leads tree false linkLimit (origin directory path)
    (FileTree.steps path) (.occupied location entry)) : tree.locate? directory path = some location := by
  rw [FileTree.locate?, travel_eq_ok_iff.mpr leads]

/-- A listed directory leads on to what it holds. -/
theorem Lists.leads {name : Bytes} (lists : tree.Lists directory start path location)
    (held : tree.get? (location ++ [name]) = some entry) (not_directory : entry ≠ .directory) :
    Leads tree false linkLimit (origin directory (path.join ⟨name⟩))
      (FileTree.steps (path.join ⟨name⟩)) (.occupied (location ++ [name]) entry) := by
  obtain ⟨-, named⟩ := directory_of_get? held
  obtain ⟨some_byte, not_dot, not_dots, unslashed, short⟩ := isName_iff.mp named
  obtain ⟨before, spelled, counted⟩ :=
    exists_steps_endsIn (Path.endsIn_join path some_byte unslashed)
  rw [Path.components_opened, ← filter_steps] at counted
  have step : Step.of name = .name name := by
    simp [Step.of, some_byte, not_dot, not_dots]
  obtain ⟨left, arrives⟩ := lists.arrives
  rw [spelled, step, origin_of_append directory lists.some_byte (components_join_name path named)]
  exact (arrives.congr counted.symm).leads (by simp)
    (.reach short held not_directory fun _ _ => rfl)

theorem Reaches.locate? (reaches : tree.Reaches directory start way location entry)
    (file : entry.IsFile) (short : way ≠ [] → isTooLong (descend start way.dropLast) = false) :
    tree.locate? directory (descend start way) = some location := by
  cases reaches with
  | itself found =>
    obtain ⟨-, -, -, leads⟩ := lookup_eq_ok_iff.mp (entryAt_eq_ok_iff.mp found)
    exact leads.locate?
  | @below top _ _ opened some_name held =>
    obtain ⟨names, name, rfl⟩ : ∃ names name, way = names ++ [name] :=
      ⟨_, _, (List.dropLast_append_getLast some_name).symm⟩
    have open_above := short some_name
    rw [List.dropLast_concat] at open_above
    rw [← List.append_assoc] at held ⊢
    have lists : tree.Lists directory start (descend start names) (top ++ names) :=
      ⟨top, names, opened, rfl, (directory_of_get? held).1, rfl, open_above⟩
    have not_directory : entry ≠ .directory := by
      rintro rfl
      exact not_isFile_directory file
    rw [descend_concat]
    exact (lists.leads held not_directory).locate?

theorem Reaches.way_unique {way' : List Bytes} {entry' : Entry}
    (reaches : tree.Reaches directory start way location entry) (file : entry.IsFile)
    (reaches' : tree.Reaches directory start way' location entry') (file' : entry'.IsFile) :
    way = way' := by
  -- From a start that is a file nothing is below it.
  have apart {top entry} (found : tree.entryAt directory false start = .ok (location, entry))
      (file : entry.IsFile) : tree.entryAt directory true start ≠ .ok (top, .directory) := by
    intro opened
    rw [entryAt_of_isFile found file] at opened
    cases opened
    exact not_isFile_directory file
  generalize same : location = place at reaches'
  cases reaches with
  | itself found =>
    cases reaches' with
    | itself => rfl
    | below opened => exact absurd opened (apart found file)
  | below opened =>
    cases reaches' with
    | itself found => exact absurd opened (apart (same ▸ found) file')
    | below opened' =>
      rw [opened] at opened'
      cases opened'
      exact List.append_cancel_left same

end FileTree

namespace Scan

open FileTree

variable (tree : FileTree) (directory : Location) (root : Path) (selection : Selection)

/-- From one of its directories, a scan finds the file at a location. -/
def FindsAt (start : Path) (location : Location) : Prop :=
  ∃ way entry, tree.Reaches directory start way location entry ∧ entry.IsFile ∧
    Finds tree directory start selection.extensions (ignoresOf root selection) way

def locationsFrom (start : Path) : List (Option Location) :=
  ((visits tree directory start).filterMap
    (file? selection.extensions (ignoresOf root selection))).map (tree.locate? directory)

theorem locationsFrom_spec (start : Path) :
    let found := locationsFrom tree directory root selection start
    found.Nodup ∧ none ∉ found ∧
      ∀ location, some location ∈ found ↔ FindsAt tree directory root selection start location := by
  intro found
  obtain ⟨ways, listed, enumerates⟩ :=
    exists_ways tree directory start selection.extensions (ignoresOf root selection)
  have same : found = ways.map fun way => tree.locate? directory (descend start way) :=
    (congrArg (List.map _) listed).trans List.map_map
  have located {way : List Bytes} (member : way ∈ ways) : ∃ location entry,
      tree.Reaches directory start way location entry ∧ entry.IsFile ∧
        tree.locate? directory (descend start way) = some location := by
    obtain ⟨⟨location, entry, reaches, file⟩, short, -⟩ := (enumerates.exact way).mp member
    exact ⟨location, entry, reaches, file, reaches.locate? file short⟩
  rw [same]
  refine ⟨enumerates.nodup.map_on fun way member way' member' alike => ?_, fun absent => ?_,
    fun location => ?_⟩
  · obtain ⟨location, entry, reaches, file, here⟩ := located member
    obtain ⟨location', entry', reaches', file', here'⟩ := located member'
    rw [here, here', Option.some.injEq] at alike
    subst alike
    exact reaches.way_unique file reaches' file'
  · obtain ⟨way, member, missing⟩ := List.mem_map.mp absent
    obtain ⟨location, entry, -, -, here⟩ := located member
    rw [here] at missing
    cases missing
  · rw [List.mem_map]
    constructor
    · rintro ⟨way, member, alike⟩
      obtain ⟨location', entry, reaches, file, here⟩ := located member
      rw [here, Option.some.injEq] at alike
      subst alike
      exact ⟨way, entry, reaches, file, (enumerates.exact way).mp member⟩
    · rintro ⟨way, entry, reaches, file, finds⟩
      exact ⟨way, (enumerates.exact way).mpr finds, reaches.locate? file finds.2.1⟩

open scoped Classical in
theorem count_locations (starts : List Path) (location : Location) :
    (starts.flatMap (locationsFrom tree directory root selection)).count (some location) =
      starts.countP fun start => FindsAt tree directory root selection start location := by
  induction starts with
  | nil => rfl
  | cons start rest ih =>
    obtain ⟨distinct, -, exact⟩ := locationsFrom_spec tree directory root selection start
    rw [List.flatMap_cons, List.count_append, ih, distinct.count, List.countP_cons, Nat.add_comm]
    simp only [exact, decide_eq_true_eq]

theorem nodup_locations_iff (starts : List Path) :
    (starts.flatMap (locationsFrom tree directory root selection)).Nodup ↔
      starts.Pairwise fun first second => ∀ location,
        FindsAt tree directory root selection first location →
          ¬ FindsAt tree directory root selection second location := by
  have spec := locationsFrom_spec tree directory root selection
  rw [List.nodup_flatMap, and_iff_right fun start _ => (spec start).1]
  refine List.Pairwise.iff fun first second => ⟨fun apart location finds finds' => ?_, ?_⟩
  · exact apart (((spec first).2.2 location).mpr finds) (((spec second).2.2 location).mpr finds')
  · rintro apart (_ | location) member member'
    · exact (spec first).2.1 member
    · exact apart location (((spec first).2.2 location).mp member)
        (((spec second).2.2 location).mp member')

end Scan

namespace Project

open FileTree Scan

open scoped Classical in
/-- Every file that is listed is one that the tree holds, and is listed once for each scan directory that
finds it. So the files are counted right just when no two of the directories find the same file, and
a file that is displaced by itself was found from two of them. -/
theorem counts_files_per_directory (project : Project) (tree : FileTree) (directory : Location)
    (applied : Bool) (families : List FamilyReport) :
    let starts := project.selection.starts project.root
    let finds := FindsAt tree directory project.root project.selection
    let report := project.report (project.scan tree directory) applied families
    let found := report.placed.map fun file => tree.locate? directory file.path
    none ∉ found ∧ (∀ location, found.count (some location) =
        starts.countP fun start => finds start location) ∧
      (report.filesScanned = found.dedup.length ↔ starts.Pairwise fun first second =>
        ∀ location, finds first location → ¬ finds second location) ∧
      ∀ collision ∈ report.collisions,
        tree.locate? directory collision.displaced = tree.locate? directory collision.kept →
          ∃ location, tree.locate? directory collision.kept = some location ∧
            2 ≤ starts.countP fun start => finds start location := by
  intro starts finds report found
  have listed : found = (project.scan tree directory).files.map (tree.locate? directory) := by
    show List.map _ (Grouping.of _ _).placed = _
    rw [Grouping.placed_of, List.map_map]
    rfl
  have spread : found = starts.flatMap
      (locationsFrom tree directory project.root project.selection) := by
    rw [listed]
    exact List.map_flatMap
  have counted (location : Location) : found.count (some location) =
      starts.countP fun start => finds start location := by
    rw [spread]
    exact count_locations tree directory project.root project.selection starts location
  have present : none ∉ found := by
    intro absent
    obtain ⟨start, -, member⟩ := List.mem_flatMap.mp (spread ▸ absent)
    exact (locationsFrom_spec tree directory project.root project.selection start).2.1 member
  refine ⟨present, counted, ?_, fun collision member same => ?_⟩
  · have scanned : report.filesScanned = found.length := (List.length_map _).symm
    have distinct : found.length = found.dedup.length ↔ found.Nodup := by
      rw [← List.dedup_eq_self]
      exact ⟨fun same => (List.dedup_sublist found).eq_of_length same.symm,
        fun same => by rw [same]⟩
    rw [scanned, distinct, spread]
    exact nodup_locations_iff tree directory project.root project.selection starts
  · have both := (Grouping.displaced_before_kept _ _ member).map (tree.locate? directory)
    rw [← listed, List.map_cons, List.map_singleton, same] at both
    cases here : tree.locate? directory collision.kept with
    | none =>
      rw [here] at both
      exact absurd (both.subset (by simp)) present
    | some location =>
      rw [here] at both
      have twice := both.count_le (some location)
      rw [counted, List.count_cons_self, List.count_cons_self, List.count_nil] at twice
      exact ⟨location, rfl, twice⟩

/-- With a directory beside one that holds it, or named twice, the one file of a tree is listed twice,
counts as two files, and is reported as displaced by itself. -/
theorem counts_one_file_twice :
    let tree := FileTree.ofEntries [(["docs"], .directory), (["docs", "guides"], .directory),
      (["docs", "guides", "intro.md"], .file [] false)]
    let intro := Path.ofText "/docs/guides/intro.md"
    let twice (scanDirs : List String) : Prop :=
      let config := { Config.initial with scanDirs := scanDirs }
      config.validate = .ok () ∧
        ∃ project, ofConfig tree [] (.ofText "/") config none false = .ok project ∧
          let report := project.preview (project.scan tree [])
          report.placed.map (·.path) = [intro, intro] ∧ report.filesScanned = 2 ∧
            report.collisions = [⟨.ofText "/docs/guides/intro", "en", intro, intro⟩]
    twice ["docs", "docs/guides"] ∧ twice ["docs", "docs"] :=
  ⟨⟨by decide, _, rfl, by decide⟩, ⟨by decide, _, rfl, by decide⟩⟩

end Project

end LocaleFamilies
