import LocaleFamilies.Proofs.FileTree.WalkOrder
import LocaleFamilies.Proofs.Scan.Wanted

/-! What a scan finds. From each of its directories that exist it takes the regular files at or below it
that are wanted, each of them once, a directory before what comes after it and its entries by the bytes of
their names. Links are followed only where a scan starts. -/
namespace LocaleFamilies

/-- An entry at or below the start of a walk: the names on the way to it, and where it is. What lies below a
start is found also through a link, what the start is itself is not. -/
inductive FileTree.Reaches (tree : FileTree) (directory : Location) (start : Path) :
    List Bytes → Location → Entry → Prop
  | itself {location entry} : tree.entryAt directory false start = .ok (location, entry) →
    Reaches tree directory start [] location entry
  | below {top way entry} : tree.entryAt directory true start = .ok (top, .directory) → way ≠ [] →
    tree.get? (top ++ way) = some entry → Reaches tree directory start way (top ++ way) entry

open FileTree

namespace Scan

section Below

variable (tree : FileTree) (top : Location) (start : Path) (extensions : List String)
  (ignores : List Ignore)

/-- The names on the way from a directory to a file below it that is found. -/
private def wayTo? (found : Location × Entry) : Option (List Bytes) :=
  if top.isPrefixOf found.1 && top.length < found.1.length then
    let names := found.1.drop top.length
    if isTooLong (descend start names.dropLast) then none
    else (file? extensions ignores (.found (descend start names) found.2)).map fun _ => names
  else none

private theorem filterMap_visit (path : Path) (entry : Entry) :
    (visit path entry).filterMap (file? extensions ignores) =
      (file? extensions ignores (.found path entry)).toList := by
  unfold visit
  split
  · rename_i long
    simp only [Bool.and_eq_true, beq_iff_eq] at long
    rw [long.1]
    rfl
  · cases found : file? extensions ignores (.found path entry) <;> simp [found]

private theorem filterMap_visitsBelow :
    (tree.visitsBelow top start).filterMap (file? extensions ignores) =
      (tree.entries.entries.filterMap (wayTo? top start extensions ignores)).map (descend start) := by
  rw [visitsBelow, List.filterMap_flatMap, List.map_filterMap, List.filterMap_eq_flatMap_toList]
  congr 1
  funext found
  obtain ⟨location, entry⟩ := found
  by_cases below : (top.isPrefixOf location && top.length < location.length) = true
  swap
  · simp only [wayTo?, below]
    rfl
  simp only [wayTo?, below, if_true]
  split
  · rfl
  · rw [filterMap_visit]
    cases shown : file? extensions ignores
        (.found (descend start (location.drop top.length)) entry) with
    | none => rfl
    | some path =>
      obtain ⟨⟨entry, -, same⟩, -⟩ := file?_eq_some_iff.mp shown
      cases same
      rfl

private theorem wayTo?_eq_some_iff {location : Location} {entry : Entry} {way : List Bytes} :
    wayTo? top start extensions ignores (location, entry) = some way ↔
      location = top ++ way ∧ way ≠ [] ∧ isTooLong (descend start way.dropLast) = false ∧
        file? extensions ignores (.found (descend start way) entry) = some (descend start way) := by
  unfold wayTo?
  constructor
  · intro found
    split at found
    · rename_i below
      simp only [Bool.and_eq_true, List.isPrefixOf_iff_prefix, decide_eq_true_eq] at below
      obtain ⟨⟨names, rfl⟩, longer⟩ := below
      rw [List.length_append, Nat.lt_add_right_iff_pos, List.length_pos_iff] at longer
      simp only [List.drop_left] at found
      split at found
      · cases found
      · rename_i short
        obtain ⟨path, shown, rfl⟩ := Option.map_eq_some_iff.mp found
        obtain ⟨⟨_, -, same⟩, -⟩ := file?_eq_some_iff.mp shown
        cases same
        exact ⟨rfl, longer, Bool.eq_false_iff.mpr short, shown⟩
    · cases found
  · rintro ⟨rfl, some_name, short, shown⟩
    have below : (top.isPrefixOf (top ++ way) &&
        decide (top.length < (top ++ way).length)) = true := by
      simpa using List.length_pos_iff.mpr some_name
    simp only [below, if_true, List.drop_left, short, shown]
    rfl

/-- The ways to the files found below a directory come in the order of the entries. -/
private theorem exists_waysBelow :
    ∃ ways, (tree.visitsBelow top start).filterMap (file? extensions ignores) =
        ways.map (descend start) ∧
      Enumerates (fun way => way ≠ [] ∧ ∃ entry, tree.get? (top ++ way) = some entry ∧
        isTooLong (descend start way.dropLast) = false ∧
        file? extensions ignores (.found (descend start way) entry) = some (descend start way))
        ways := by
  refine ⟨_, filterMap_visitsBelow tree top start extensions ignores, ?_, fun way => ?_⟩
  · refine List.pairwise_filterMap.mpr (tree.entries.ascending.imp ?_)
    rintro ⟨location, entry⟩ ⟨location', entry'⟩ less way found way' found'
    obtain ⟨rfl, -⟩ := (wayTo?_eq_some_iff _ _ _ _).mp found
    obtain ⟨rfl, -⟩ := (wayTo?_eq_some_iff _ _ _ _).mp found'
    rw [compare_append_left] at less
    exact precedes_of_compare less
  · rw [List.mem_filterMap]
    constructor
    · rintro ⟨⟨location, entry⟩, member, found⟩
      obtain ⟨rfl, some_name, short, shown⟩ := (wayTo?_eq_some_iff _ _ _ _).mp found
      exact ⟨some_name, entry, (get?_eq_some_iff_mem (by simp [some_name])).mpr member, short, shown⟩
    · rintro ⟨some_name, entry, held, short, shown⟩
      exact ⟨(top ++ way, entry), (get?_eq_some_iff_mem (by simp [some_name])).mp held,
        (wayTo?_eq_some_iff _ _ _ _).mpr ⟨rfl, some_name, short, shown⟩⟩

end Below

section Visits

variable {tree : FileTree} {directory location top : Location} {start : Path} {entry held : Entry}

private theorem visits_of_not_hasEntry (absent : tree.hasEntry directory start = false) :
    visits tree directory start = [] ∧ ∀ way location entry,
      tree.Reaches directory start way location entry → ¬ entry.IsFile := by
  have missing {top held} : tree.entryAt directory true start ≠ .ok (top, held) := fun found =>
    Bool.eq_false_iff.mp absent (hasEntry_iff.mpr ⟨top, held, found⟩)
  refine ⟨by rw [visits, if_neg (by simp [absent])], fun way location entry reaches file => ?_⟩
  cases reaches with
  | itself found => exact missing (entryAt_of_isFile found file)
  | below opened => exact missing opened

/-- The ways to the files that are found from a start: those that it reaches and that are wanted, unless
their directory has too long a path to be opened. -/
def Finds (tree : FileTree) (directory : Location) (start : Path) (extensions : List String)
    (ignores : List Ignore) (way : List Bytes) : Prop :=
  (∃ location entry, tree.Reaches directory start way location entry ∧ entry.IsFile) ∧
  (way ≠ [] → isTooLong (descend start way.dropLast) = false) ∧
  hasExtension extensions (descend start way) = true ∧
  ∀ ignore ∈ ignores, ¬ ignore.covers (descend start way) = true

variable {extensions : List String} {ignores : List Ignore}

private theorem exists_ways_of_directory
    (unfollowed : tree.entryAt directory false start = .ok (location, entry))
    (followed : tree.entryAt directory true start = .ok (top, .directory)) :
    ∃ ways, (visits tree directory start).filterMap (file? extensions ignores) =
        ways.map (descend start) ∧
      Enumerates (Finds tree directory start extensions ignores) ways := by
  have not_file : ¬ entry.IsFile := by
    intro file
    rw [entryAt_of_isFile unfollowed file] at followed
    cases followed
    exact not_isFile_directory file
  have skipped : file? extensions ignores (.found start entry) = none := by
    refine Option.eq_none_iff_forall_not_mem.mpr fun path shown => ?_
    obtain ⟨⟨_, file, same⟩, -⟩ := file?_eq_some_iff.mp shown
    cases same
    exact not_file file
  obtain ⟨ways, listed, ordered, exact⟩ := exists_waysBelow tree top start extensions ignores
  refine ⟨ways, ?_, ordered, fun way => (exact way).trans ?_⟩
  · rw [visits_eq unfollowed followed, if_pos rfl, List.filterMap_cons_none skipped, listed]
  constructor
  · rintro ⟨some_name, entry, here, short, shown⟩
    obtain ⟨⟨_, file, same⟩, wanted⟩ := file?_eq_some_iff.mp shown
    cases same
    exact ⟨⟨_, entry, .below followed some_name here, file⟩, fun _ => short, wanted⟩
  · rintro ⟨⟨place, entry', reaches, file⟩, short, wanted⟩
    cases reaches with
    | itself found =>
      rw [unfollowed] at found
      cases found
      exact absurd file not_file
    | below found some_name here =>
      rw [followed] at found
      cases found
      exact ⟨some_name, entry', here, short some_name,
        file?_eq_some_iff.mpr ⟨⟨entry', file, rfl⟩, wanted⟩⟩

private theorem exists_ways_of_other
    (unfollowed : tree.entryAt directory false start = .ok (location, entry))
    (followed : tree.entryAt directory true start = .ok (top, held)) (other : held ≠ .directory) :
    ∃ ways, (visits tree directory start).filterMap (file? extensions ignores) =
        ways.map (descend start) ∧
      Enumerates (Finds tree directory start extensions ignores) ways := by
  have alone (way : List Bytes) :
      (∃ location entry, tree.Reaches directory start way location entry ∧ entry.IsFile) ↔
        way = [] ∧ entry.IsFile := by
    constructor
    · rintro ⟨place, entry', reaches, file⟩
      cases reaches with
      | itself found =>
        rw [unfollowed] at found
        cases found
        exact ⟨rfl, file⟩
      | below found =>
        rw [followed] at found
        cases found
        exact absurd rfl other
    · rintro ⟨rfl, file⟩
      exact ⟨location, entry, .itself unfollowed, file⟩
  have visited := visits_eq unfollowed followed
  rw [if_neg other] at visited
  cases shown : file? extensions ignores (.found start entry) with
  | none =>
    refine ⟨[], by simp [visited, shown], .nil, fun way => iff_of_false List.not_mem_nil ?_⟩
    rw [Finds, alone]
    rintro ⟨⟨rfl, file⟩, -, wanted⟩
    have found : file? extensions ignores (.found start entry) = some start :=
      file?_eq_some_iff.mpr ⟨⟨entry, file, rfl⟩, wanted⟩
    rw [shown] at found
    cases found
  | some path =>
    obtain ⟨⟨_, file, same⟩, wanted⟩ := file?_eq_some_iff.mp shown
    cases same
    refine ⟨[[]], by simp [visited, shown, descend], List.pairwise_singleton _ _, fun way => ?_⟩
    rw [Finds, alone, List.mem_singleton]
    constructor
    · rintro rfl
      exact ⟨⟨rfl, file⟩, fun some_name => absurd rfl some_name, wanted⟩
    · exact fun both => both.1.1

theorem exists_ways (tree : FileTree) (directory : Location) (start : Path)
    (extensions : List String) (ignores : List Ignore) :
    ∃ ways, (visits tree directory start).filterMap (file? extensions ignores) =
        ways.map (descend start) ∧
      Enumerates (Finds tree directory start extensions ignores) ways := by
  cases present : tree.hasEntry directory start with
  | false =>
    obtain ⟨none_seen, none_reached⟩ := visits_of_not_hasEntry present
    refine ⟨[], by rw [none_seen]; rfl, .nil, fun way => iff_of_false List.not_mem_nil ?_⟩
    rintro ⟨⟨location, entry, reaches, file⟩, -⟩
    exact none_reached way location entry reaches file
  | true =>
    obtain ⟨top, held, followed⟩ := hasEntry_iff.mp present
    obtain ⟨location, entry, unfollowed⟩ := exists_entryAt_unfollowed followed
    by_cases opened : held = .directory
    · subst opened
      exact exists_ways_of_directory unfollowed followed
    · exact exists_ways_of_other unfollowed followed opened

end Visits

end Scan

section Readable

open Scan

variable {tree : FileTree} {directory top : Location} {root start : Path} {selection : Selection}

/-- Every directory at or below a start has a path that is short enough for it to be opened. -/
def FileTree.IsReadable (tree : FileTree) (directory : Location) (start : Path) : Prop :=
  ∀ top names, tree.entryAt directory true start = .ok (top, .directory) →
    tree.get? (top ++ names) = some .directory → isTooLong (descend start names) = false

theorem FileTree.isReadable_iff : tree.IsReadable directory start ↔
    ∀ found ∈ ([], Entry.directory) :: tree.entries.entries, found.2 = .directory →
      ∀ kept ∈ List.range (found.1.length + 1),
        tree.entryAt directory true start = .ok (found.1.take kept, .directory) →
          isTooLong (descend start (found.1.drop kept)) = false := by
  have held {location : Location} :
      (location, Entry.directory) ∈ ([], Entry.directory) :: tree.entries.entries ↔
        tree.get? location = some .directory := by
    rw [List.mem_cons, ← SortedMap.get?_eq_some_iff, get?]
    by_cases top : location = [] <;> simp [top]
  constructor
  · rintro readable ⟨location, entry⟩ member rfl kept - opened
    refine readable _ _ opened ?_
    rw [List.take_append_drop]
    exact held.mp member
  · intro short top names opened here
    have inside : top.length ∈ List.range ((top ++ names).length + 1) := by
      rw [List.mem_range, List.length_append]
      omega
    have last := short _ (held.mpr here) rfl top.length inside
    rw [List.take_left, List.drop_left] at last
    exact last opened

instance (tree : FileTree) (directory : Location) (start : Path) :
    Decidable (tree.IsReadable directory start) :=
  decidable_of_iff _ isReadable_iff.symm

private theorem fault?_visitsBelow (readable : tree.IsReadable directory start)
    (opened : tree.entryAt directory true start = .ok (top, .directory)) :
    (tree.visitsBelow top start).filterMap fault? = [] := by
  refine List.filterMap_eq_nil_iff.mpr fun seen visited => ?_
  obtain ⟨names, name, entry, held, -, shown⟩ := mem_visitsBelow_iff.mp visited
  unfold FileTree.visit at shown
  split at shown
  · rename_i closed
    simp only [Bool.and_eq_true, beq_iff_eq] at closed
    obtain ⟨rfl, long⟩ := closed
    rw [List.append_assoc] at held
    rw [← descend_concat, readable top _ opened held] at long
    cases long
  · rw [List.mem_singleton.mp shown]
    rfl

private theorem fault?_visits (readable : tree.IsReadable directory start) :
    (visits tree directory start).filterMap fault? = [] := by
  cases present : tree.hasEntry directory start with
  | false =>
    rw [(visits_of_not_hasEntry present).1]
    rfl
  | true =>
    obtain ⟨top, held, followed⟩ := hasEntry_iff.mp present
    obtain ⟨location, entry, unfollowed⟩ := exists_entryAt_unfollowed followed
    rw [visits_eq unfollowed followed, List.filterMap_cons_none rfl]
    split
    · rename_i opened
      subst opened
      exact fault?_visitsBelow readable followed
    · rfl

theorem finds_iff (readable : tree.IsReadable directory start) {way : List Bytes} :
    Finds tree directory start selection.extensions (ignoresOf root selection) way ↔
      (∃ location entry, tree.Reaches directory start way location entry ∧ entry.IsFile) ∧
        selection.Wants root (descend start way) := by
  rw [Finds, wants_iff]
  refine and_congr_right ?_
  rintro ⟨location, entry, reaches, -⟩
  refine and_iff_right fun some_name => ?_
  cases reaches with
  | itself => exact absurd rfl some_name
  | below opened some_name held =>
    exact readable _ _ opened (names_of_get? some_name held).1

def Selection.starts (selection : Selection) (root : Path) : List Path :=
  selection.directories.map root.join

/-- What a scan is to come to: the directories that do not exist, and from each of the others, in turn,
the wanted files at or below it. -/
structure Scan.IsExact (scan : Scan) (tree : FileTree) (directory : Location) (root : Path)
    (selection : Selection) : Prop where
  missing : scan.missing =
    (selection.starts root).filter fun start => !tree.hasEntry directory start
  complete : scan.unreadable = []
  files : ∃ ways : Path → List (List Bytes),
    scan.files = ((selection.starts root).filter (tree.hasEntry directory)).flatMap
      (fun start => (ways start).map (descend start)) ∧
    ∀ start ∈ selection.starts root, tree.hasEntry directory start = true →
      Enumerates (fun way =>
        (∃ location entry, tree.Reaches directory start way location entry ∧ entry.IsFile) ∧
          selection.Wants root (descend start way)) (ways start)

/-- Where every directory can be read, a scan finds exactly the wanted files. -/
theorem Scan.isExact_of_readable (tree : FileTree) (directory : Location) (root : Path)
    (selection : Selection)
    (readable : ∀ start ∈ selection.starts root, tree.IsReadable directory start) :
    (Scan.of tree directory root selection).IsExact tree directory root selection := by
  choose ways listed enumerates using fun start =>
    exists_ways tree directory start selection.extensions (ignoresOf root selection)
  refine ⟨rfl, ?_, ways, ?_, fun start member _ => ?_⟩
  · exact List.flatMap_eq_nil_iff.mpr fun start member => fault?_visits (readable start member)
  · show (selection.starts root).flatMap (fun start => (visits tree directory start).filterMap
      (file? selection.extensions (ignoresOf root selection))) = _
    induction selection.starts root with
    | nil => rfl
    | cons start rest ih =>
      rw [List.flatMap_cons, ih, List.filter_cons]
      split
      · rw [List.flatMap_cons, listed]
      · rename_i absent
        rw [(visits_of_not_hasEntry (Bool.eq_false_iff.mpr absent)).1]
        rfl
  · refine ⟨(enumerates start).ordered, fun way => ((enumerates start).exact way).trans ?_⟩
    exact finds_iff (readable start member)

/-- The tree with some entries, each of them put after the directory that holds it. -/
def FileTree.ofEntries (entries : List (List String × Entry)) : FileTree :=
  entries.foldl (fun tree entry => tree.put (entry.1.map Bytes.ofText) entry.2) .empty

/-- A pattern hides files and no directory, the entries of a directory come before what comes after it,
and a directory that is named twice is scanned twice. -/
theorem Scan.isExact_of_readable_docs :
    let file := Entry.file [] false
    let tree := FileTree.ofEntries [(["docs"], .directory), (["docs", "a"], .directory),
      (["docs", "a", "intro.md"], file), (["docs", "a.md"], file), (["docs", "draft.md"], file),
      (["docs", "drafts"], .directory), (["docs", "drafts", "plan.md"], file),
      (["docs", "link.md"], .link (.ofText "a.md")), (["docs", "notes.txt"], file),
      (["docs", "old"], .directory), (["docs", "old", "intro.md"], file)]
    let selection : Selection := ⟨[.ofText "docs", .ofText "gone", .ofText "docs/a"], ["md"],
      ["docs/old", "*/draft?", "*/draft.md", "[*"]⟩
    let scan := Scan.of tree [] (.ofText "/") selection
    (∀ start ∈ selection.starts (.ofText "/"), tree.IsReadable [] start) ∧
      scan.IsExact tree [] (.ofText "/") selection ∧
      scan.files = [.ofText "/docs/a/intro.md", .ofText "/docs/a.md", .ofText "/docs/drafts/plan.md",
        .ofText "/docs/a/intro.md"] ∧
      scan.missing = [.ofText "/gone"] := by
  intro file tree selection scan
  have readable : ∀ start ∈ selection.starts (.ofText "/"), tree.IsReadable [] start := by decide
  exact ⟨readable, Scan.isExact_of_readable tree [] _ selection readable, by decide +kernel,
    by decide +kernel⟩

end Readable

end LocaleFamilies
