import LocaleFamilies.Proofs.FileTree.Copy
import LocaleFamilies.Proofs.Scan.Exactness

/-! Scans of one project in different places. Scan directories and literal ignore entries are read from the
root, so what they come to is the same in every copy of the project. A pattern is held against the whole
text of a path, the root included, so what it hides may depend on where the copy is. -/
namespace LocaleFamilies

open FileTree Scan

namespace Path

/-- A path below a root as it is spelled behind the root and the slash after it. -/
def behind (root path : Path) : Path := ⟨path.spelling.drop root.opened.spelling.length⟩

theorem behind_join (root : Path) {path : Path} (relative : path.isAbsolute = false) :
    root.behind (root.join path) = path := by
  rw [behind, join_of_relative root relative, List.drop_left]

theorem spelling_ne_nil {path : Path} (absolute : path.isAbsolute = true) : path.spelling ≠ [] := by
  intro empty
  rw [isAbsolute, empty] at absolute
  cases absolute

theorem zero_mem_join {root path : Path} (no_zero : 0 ∉ root.spelling)
    (relative : path.isAbsolute = false) :
    0 ∈ (root.join path).spelling ↔ 0 ∈ path.spelling := by
  have opened : 0 ∉ root.opened.spelling := by
    unfold Path.opened
    split
    · exact no_zero
    · simpa [Bytes.slash] using no_zero
  rw [join_of_relative root relative, List.mem_append]
  exact or_iff_right opened

theorem extension?_congr {first second : Path} {before before' rest : List Component}
    (whole : first.components = before ++ rest) (whole' : second.components = before' ++ rest)
    (more : rest ≠ []) : first.extension? = second.extension? := by
  rw [extension?, extension?, fileName?, fileName?, whole, whole',
    List.getLast?_append_of_ne_nil before more, List.getLast?_append_of_ne_nil before' more]

end Path

/-- A copy of a project: the tree that has it, the root directory of the copy and where that is, and how
many links may still be followed from there. -/
structure Checkout (project : FileTree) (links : Nat) where
  tree : FileTree
  directory : Location
  root : Path
  top : Location
  left : Nat
  absolute : root.isAbsolute = true
  no_zero : 0 ∉ root.spelling
  arrives : tree.Arrives linkLimit [] (steps root) left top
  enough : links ≤ left
  holds : tree.Holds project top

namespace Selection

variable {selection : Selection}

def literal (selection : Selection) : Selection :=
  { selection with ignores := selection.ignores.filter fun entry => !Glob.hasWildcard entry }

theorem mem_literal_iff {entry : String} : entry ∈ selection.literal.ignores ↔
    entry ∈ selection.ignores ∧ Glob.hasWildcard entry = false := by
  rw [literal, List.mem_filter, Bool.not_eq_true']

/-- Whether no pattern stands for the text of a path below a root. -/
def spares (selection : Selection) (root path : Path) : Bool :=
  selection.ignores.all fun entry => !Glob.hasWildcard entry ||
    match Glob.read entry with
    | .ok pattern => !Glob.accepts pattern (root.join path).display.toList
    | .error _ => true

/-- The entries of a selection are relative, and its directories stay inside of the project. -/
structure StaysIn (selection : Selection) (project : FileTree) (links : Nat) : Prop where
  directories : ∀ path ∈ selection.directories,
    path.isAbsolute = false ∧ project.Stays links [] (steps path)
  ignores : ∀ entry ∈ selection.ignores, (Path.ofText entry).isAbsolute = false

theorem StaysIn.literal {project : FileTree} {links : Nat} (stays : selection.StaysIn project links) :
    selection.literal.StaysIn project links :=
  ⟨stays.directories, fun entry listed => stays.ignores entry (mem_literal_iff.mp listed).1⟩

theorem spares_iff {root path : Path} : selection.spares root path = true ↔
    ∀ entry ∈ selection.ignores, Glob.hasWildcard entry = true →
      ∀ pattern, Glob.read entry = .ok pattern →
        Glob.matchesText pattern (root.join path).display.toList = false := by
  rw [spares, List.all_eq_true]
  refine forall₂_congr fun entry _ => ?_
  cases Glob.hasWildcard entry with
  | false => simp
  | true => cases Glob.read entry <;> simp [Glob.accepts_eq]

/-- A path is wanted if it is without the patterns, and none of these stands for it. -/
theorem wants_iff_literal {root path : Path} : selection.Wants root (root.join path) ↔
    selection.literal.Wants root (root.join path) ∧ selection.spares root path = true := by
  rw [spares_iff]
  constructor
  · rintro ⟨extension, outside, unmatched⟩
    refine ⟨⟨extension, fun entry listed => outside entry (mem_literal_iff.mp listed).1,
      fun entry listed wildcard => ?_⟩, unmatched⟩
    rw [(mem_literal_iff.mp listed).2] at wildcard
    cases wildcard
  · rintro ⟨⟨extension, outside, -⟩, unmatched⟩
    exact ⟨extension, fun entry listed plain =>
      outside entry (mem_literal_iff.mpr ⟨listed, plain⟩) plain, unmatched⟩

end Selection

theorem FileTree.descend_join (root path : Path) (way : List Bytes) :
    descend (root.join path) way = root.join (descend path way) := by
  induction way using List.reverseRecOn with
  | nil => rfl
  | append_singleton names name ih => rw [descend_concat, descend_concat, ih, Path.join_join]

namespace Checkout

section Reaching

variable {project : FileTree} {links : Nat} (checkout : Checkout project links) {path : Path}
  {location : Location} {entry : Entry} {way : List Bytes} {follow : Bool}

theorem root_ne_nil : checkout.root.spelling ≠ [] := Path.spelling_ne_nil checkout.absolute

theorem components_join (relative : path.isAbsolute = false) :
    (checkout.root.join path).components = checkout.root.components ++ path.inside :=
  Path.components_join_inside checkout.root_ne_nil relative

/-- What a path of the project leads to in a copy is found in the project alone. -/
theorem travel_join (relative : path.isAbsolute = false) (stays : project.Stays links [] (steps path)) :
    checkout.tree.travel follow linkLimit [] (steps (checkout.root.join path)) =
      (project.travel follow links [] (steps path)).map (Place.below checkout.top) := by
  obtain ⟨before, spelled, counted⟩ := exists_steps_join checkout.root_ne_nil relative
  have copied : checkout.tree.travel follow checkout.left (checkout.top ++ []) (steps path) = _ :=
    stays.travel_copy checkout.holds checkout.enough
  rw [List.append_nil] at copied
  rw [spelled, (checkout.arrives.congr counted.symm).travel_append (by simp [steps, Separated.parts]),
    copied]

theorem entryAt_join_iff (relative : path.isAbsolute = false)
    (stays : project.Stays links [] (steps path))
    (short : isTooLong (checkout.root.join path) = false) :
    checkout.tree.entryAt checkout.directory follow (checkout.root.join path) =
        .ok (location, entry) ↔
      0 ∉ path.spelling ∧ ∃ place, location = checkout.top ++ place ∧
        project.travel follow links [] (steps path) = .ok (.occupied place entry) := by
  have absolute : (checkout.root.join path).isAbsolute = true := by
    rw [Path.isAbsolute_join, checkout.absolute, Bool.true_or]
  have fits : (checkout.root.join path).spelling.length < pathLimit := by
    simpa [isTooLong] using short
  rw [entryAt_eq_ok_iff, lookup_eq_ok_iff, ← travel_eq_ok_iff, origin, absolute, if_pos rfl,
    checkout.travel_join relative stays, Path.zero_mem_join checkout.no_zero relative,
    and_iff_right fits, and_iff_right (Path.spelling_ne_nil absolute)]
  refine and_congr_right fun _ => ?_
  cases project.travel follow links [] (steps path) with
  | error fault => simp [Except.map]
  | ok goal => cases goal <;> simp [Except.map, Place.below, and_comm, eq_comm]

/-- A path that adds nothing to the root leads to the root directory. -/
theorem not_isFile_of_components (whole : (checkout.root.join path).components =
      checkout.root.components) (found : checkout.tree.entryAt checkout.directory false
        (checkout.root.join path) = .ok (location, entry)) : ¬ entry.IsFile := by
  intro file
  obtain ⟨-, -, -, leads⟩ :=
    lookup_eq_ok_iff.mp (entryAt_eq_ok_iff.mp (entryAt_of_isFile found file))
  have arrives : checkout.tree.Arrives linkLimit [] (steps (checkout.root.join path)) checkout.left
      checkout.top := checkout.arrives.congr (by rw [filter_steps, filter_steps, whole])
  rw [origin, Path.isAbsolute_join, checkout.absolute, Bool.true_or, if_pos rfl,
    ← travel_eq_ok_iff, travel_eq_ok_iff.mpr arrives.occupied] at leads
  cases leads
  exact not_isFile_directory file

/-- A copy of the project has a file at or below a path, on a way of names. -/
def HasFile (path : Path) (way : List Bytes) : Prop :=
  ∃ location entry,
    checkout.tree.Reaches checkout.directory (checkout.root.join path) way location entry ∧ entry.IsFile

variable {checkout}

theorem HasFile.copied {other : Checkout project links} (relative : path.isAbsolute = false)
    (stays : project.Stays links [] (steps path))
    (short : isTooLong (checkout.root.join path) = false)
    (short' : isTooLong (other.root.join path) = false) (has : checkout.HasFile path way) :
    other.HasFile path way := by
  obtain ⟨location, entry, reaches, file⟩ := has
  cases reaches with
  | itself found =>
    obtain ⟨no_zero, place, -, leads⟩ := (checkout.entryAt_join_iff relative stays short).mp found
    have found' := (other.entryAt_join_iff relative stays short').mpr ⟨no_zero, place, rfl, leads⟩
    exact ⟨_, entry, .itself found', file⟩
  | below opened some_name held =>
    obtain ⟨no_zero, place, rfl, leads⟩ := (checkout.entryAt_join_iff relative stays short).mp opened
    have opened' := (other.entryAt_join_iff relative stays short').mpr ⟨no_zero, place, rfl, leads⟩
    rw [List.append_assoc, checkout.holds, ← other.holds, ← List.append_assoc] at held
    exact ⟨_, entry, .below opened' some_name held, file⟩

theorem HasFile.named (has : checkout.HasFile path way) : ∀ name ∈ way, isName name = true := by
  obtain ⟨location, entry, reaches, -⟩ := has
  cases reaches with
  | itself => simp
  | below _ some_name held => exact (names_of_get? some_name held).2

theorem HasFile.relative (relative : path.isAbsolute = false) (has : checkout.HasFile path way) :
    (descend path way).isAbsolute = false := by
  have plain (names : List Bytes) (named : ∀ name ∈ names, isName name = true) :
      (descend path names).isAbsolute = false := by
    induction names using List.reverseRecOn with
    | nil => exact relative
    | append_singleton names name ih =>
      obtain ⟨-, -, -, unslashed, -⟩ := isName_iff.mp (named name (by simp))
      rw [descend_concat, Path.isAbsolute_join, ih fun other member => named other (by simp [member]),
        Path.isAbsolute_of_not_mem unslashed]
      rfl
  exact plain way has.named

/-- A file is no directory, so its path adds a component to the root. -/
theorem HasFile.inside_ne_nil (relative : path.isAbsolute = false)
    (has : checkout.HasFile path way) : (descend path way).inside ≠ [] := by
  intro none
  have whole : (checkout.root.join (descend path way)).components = checkout.root.components := by
    rw [checkout.components_join (has.relative relative), none, List.append_nil]
  have named := has.named
  obtain ⟨location, entry, reaches, file⟩ := has
  cases reaches with
  | itself found => exact checkout.not_isFile_of_components whole found file
  | below _ some_name =>
    rw [← descend_join, components_descend _ named, checkout.components_join relative,
      List.append_assoc] at whole
    simp [some_name] at whole

end Reaching

section Finding

variable {project : FileTree} {links : Nat} (checkout : Checkout project links)
  (selection : Selection)

def scan : Scan := Scan.of checkout.tree checkout.directory checkout.root selection

def found : List Path := (checkout.scan selection).files.map checkout.root.behind

/-- The paths of the copy are short enough for every directory to be read. -/
structure Reads : Prop where
  short : ∀ start ∈ selection.starts checkout.root, isTooLong start = false
  readable : ∀ start ∈ selection.starts checkout.root,
    checkout.tree.IsReadable checkout.directory start

variable {checkout} {selection} {path : Path} {way : List Bytes}

theorem Reads.literal (reads : checkout.Reads selection) : checkout.Reads selection.literal :=
  ⟨reads.short, reads.readable⟩

theorem exists_ways_found (stays : selection.StaysIn project links) (reads : checkout.Reads selection) :
    ∃ ways : Path → List (List Bytes),
      (checkout.scan selection).files = (checkout.found selection).map checkout.root.join ∧
      checkout.found selection =
        selection.directories.flatMap (fun path => (ways path).map (descend path)) ∧
      ∀ path ∈ selection.directories, Enumerates (fun way => checkout.HasFile path way ∧
        selection.Wants checkout.root (checkout.root.join (descend path way))) (ways path) := by
  choose ways listed enumerates using fun path => exists_ways checkout.tree checkout.directory
    (checkout.root.join path) selection.extensions (ignoresOf checkout.root selection)
  have exact (path : Path) (member : path ∈ selection.directories) :
      Enumerates (fun way => checkout.HasFile path way ∧
        selection.Wants checkout.root (checkout.root.join (descend path way))) (ways path) := by
    refine ⟨(enumerates path).ordered, fun way => ((enumerates path).exact way).trans ?_⟩
    rw [← descend_join]
    exact finds_iff (reads.readable _ (List.mem_map_of_mem member))
  have joined (path : Path) : (visits checkout.tree checkout.directory (checkout.root.join path)).filterMap
      (file? selection.extensions (ignoresOf checkout.root selection)) =
        ((ways path).map (descend path)).map checkout.root.join := by
    rw [listed, List.map_map]
    exact List.map_congr_left fun way _ => descend_join checkout.root path way
  have files : (checkout.scan selection).files = (selection.directories.flatMap
      fun path => (ways path).map (descend path)).map checkout.root.join := by
    rw [List.map_flatMap]
    exact (List.flatMap_map ..).trans (congrArg selection.directories.flatMap (funext joined))
  have behind : checkout.found selection =
      selection.directories.flatMap fun path => (ways path).map (descend path) := by
    rw [found, files, List.map_map]
    refine (List.map_congr_left fun file member => ?_).trans (List.map_id _)
    obtain ⟨path, listed, inner⟩ := List.mem_flatMap.mp member
    obtain ⟨way, met, rfl⟩ := List.mem_map.mp inner
    obtain ⟨has, -⟩ := ((exact path listed).exact way).mp met
    exact Path.behind_join checkout.root (has.relative (stays.directories path listed).1)
  exact ⟨ways, by rw [files, behind], behind, exact⟩

/-- What literal entries ask of a file is said without the root. -/
theorem wants_literal_iff (stays : selection.StaysIn project links) {file : Path}
    (relative : file.isAbsolute = false) :
    selection.literal.Wants checkout.root (checkout.root.join file) ↔
      (∃ extension ∈ selection.extensions,
        (checkout.root.join file).extension? = some (Bytes.ofText extension)) ∧
      ∀ entry ∈ selection.ignores, Glob.hasWildcard entry = false →
        ¬ (Path.ofText entry).inside <+: file.inside := by
  have below (entry : String) (listed : entry ∈ selection.ignores) :
      (checkout.root.join (.ofText entry)).components <+: (checkout.root.join file).components ↔
        (Path.ofText entry).inside <+: file.inside := by
    rw [checkout.components_join (stays.ignores entry listed), checkout.components_join relative,
      List.prefix_append_right_inj]
  constructor
  · rintro ⟨extension, outside, -⟩
    refine ⟨extension, fun entry listed plain => ?_⟩
    rw [← below entry listed]
    exact outside entry (Selection.mem_literal_iff.mpr ⟨listed, plain⟩) plain
  · rintro ⟨extension, outside⟩
    refine ⟨extension, fun entry listed plain => ?_, fun entry listed wildcard => ?_⟩
    · obtain ⟨listed, -⟩ := Selection.mem_literal_iff.mp listed
      rw [below entry listed]
      exact outside entry listed plain
    · rw [(Selection.mem_literal_iff.mp listed).2] at wildcard
      cases wildcard

theorem wants_literal_copied {other : Checkout project links} (stays : selection.StaysIn project links)
    (listed : path ∈ selection.directories) (has : checkout.HasFile path way)
    (wants : selection.literal.Wants checkout.root (checkout.root.join (descend path way))) :
    selection.literal.Wants other.root (other.root.join (descend path way)) := by
  have relative := (stays.directories path listed).1
  have same : (checkout.root.join (descend path way)).extension? =
      (other.root.join (descend path way)).extension? :=
    Path.extension?_congr (checkout.components_join (has.relative relative))
      (other.components_join (has.relative relative)) (has.inside_ne_nil relative)
  rw [wants_literal_iff stays (has.relative relative)] at wants ⊢
  rwa [← same]

/-- Without its patterns, a scan finds the same in every copy. -/
theorem found_literal {other : Checkout project links} (stays : selection.StaysIn project links)
    (reads : checkout.Reads selection) (reads' : other.Reads selection) :
    checkout.found selection.literal = other.found selection.literal := by
  obtain ⟨ways, -, found, exact⟩ := exists_ways_found stays.literal reads.literal
  obtain ⟨ways', -, found', exact'⟩ := exists_ways_found stays.literal reads'.literal
  -- The copies are exchanged for the other direction, so the argument is made for any two of them.
  have carried {one other : Checkout project links} (reads : one.Reads selection)
      (reads' : other.Reads selection) {path : Path} (listed : path ∈ selection.directories)
      {way : List Bytes} (met : one.HasFile path way ∧
        selection.literal.Wants one.root (one.root.join (descend path way))) :
      other.HasFile path way ∧
        selection.literal.Wants other.root (other.root.join (descend path way)) := by
    obtain ⟨relative, inside⟩ := stays.directories path listed
    exact ⟨met.1.copied relative inside (reads.short _ (List.mem_map_of_mem listed))
      (reads'.short _ (List.mem_map_of_mem listed)), wants_literal_copied stays listed met.1 met.2⟩
  rw [found, found']
  refine List.flatMap_congr fun path listed => ?_
  rw [(exact path listed).unique (exact' path listed) fun way =>
    ⟨carried reads reads' listed, carried reads' reads listed⟩]

/-- A pattern takes away what it stands for in the whole texts of the paths. -/
theorem found_eq_filter (stays : selection.StaysIn project links) (reads : checkout.Reads selection) :
    checkout.found selection =
      (checkout.found selection.literal).filter (selection.spares checkout.root) := by
  obtain ⟨ways, -, found, exact⟩ := exists_ways_found stays reads
  obtain ⟨ways', -, found', exact'⟩ := exists_ways_found stays.literal reads.literal
  rw [found, found', List.filter_flatMap]
  refine List.flatMap_congr fun path listed => ?_
  rw [List.filter_map]
  refine congrArg _ ((exact path listed).unique ((exact' path listed).filter _) fun way => ?_)
  rw [Selection.wants_iff_literal, and_assoc]
  rfl

/-- Discovery depends on the place of a project through the patterns alone. What literal entries leave is the
same, in the same order, below every root, and a pattern takes from it what it stands for in the whole
text of the path, the root included. So two copies show the same files just when the patterns make no
difference between them. -/
theorem finds_alike_iff (one other : Checkout project links) (stays : selection.StaysIn project links)
    (reads : one.Reads selection) (reads' : other.Reads selection) :
    (one.scan selection).files = (one.found selection).map one.root.join ∧
    one.found selection.literal = other.found selection.literal ∧
    one.found selection = (one.found selection.literal).filter (selection.spares one.root) ∧
    (one.found selection = other.found selection ↔
      ∀ file ∈ one.found selection.literal,
        selection.spares one.root file = selection.spares other.root file) := by
  obtain ⟨-, files, -, -⟩ := exists_ways_found stays reads
  have alike := found_literal stays reads reads'
  refine ⟨files, alike, found_eq_filter stays reads, ?_⟩
  rw [found_eq_filter stays reads, found_eq_filter stays reads', ← alike]
  constructor
  · intro same file member
    have kept := congrArg (fun files => file ∈ files) same
    simp only [List.mem_filter, member, true_and, eq_iff_iff] at kept
    exact Bool.eq_iff_iff.mpr kept
  · exact List.filter_congr

end Finding

/-- A copy of a project in a directory right below the root of a tree. -/
def ofTop (tree : FileTree) {project : FileTree} (links : Nat) (name : Bytes)
    (holds : tree.Holds project [name]) (no_zero : 0 ∉ name) (enough : links ≤ linkLimit) :
    Checkout project links where
  tree := tree
  directory := []
  root := ⟨Bytes.slash :: name⟩
  top := [name]
  left := linkLimit
  absolute := rfl
  no_zero := by simpa [Bytes.slash] using no_zero
  arrives := by
    have here : tree.get? ([] ++ [name]) = some .directory := holds []
    obtain ⟨some_byte, not_dot, not_dots, unslashed, short⟩ :=
      isName_iff.mp (directory_of_get? here).2
    have spelled : steps ⟨Bytes.slash :: name⟩ = [.slash, .name name] := by
      rw [steps, Separated.parts_separator, Separated.parts, Separated.cut_of_not_mem _ _ unslashed]
      simp [Step.of, some_byte, not_dot, not_dots]
    rw [spelled]
    exact .slash (.enter short here (.stop ..))
  enough := enough
  holds := holds

/-- A project whose files are found at one place is seen as empty at another, where the root has the name that
a pattern is about. -/
theorem hides_copy_by_root :
    let file := Entry.file [] false
    let project := FileTree.ofEntries [(["docs"], .directory), (["docs", "x.md"], file)]
    let tree := FileTree.ofEntries [(["a"], .directory), (["a", "docs"], .directory),
      (["a", "docs", "x.md"], file), (["drafts"], .directory), (["drafts", "docs"], .directory),
      (["drafts", "docs", "x.md"], file)]
    let selection : Selection := ⟨[.ofText "docs"], ["md"], ["**/drafts/**"]⟩
    let one : Checkout project 0 := ofTop tree 0 (.ofText "a") (by decide) (by decide) (by decide)
    let other : Checkout project 0 :=
      ofTop tree 0 (.ofText "drafts") (by decide) (by decide) (by decide)
    selection.StaysIn project 0 ∧ one.Reads selection ∧ other.Reads selection ∧
      (one.scan selection).files = [.ofText "/a/docs/x.md"] ∧ (other.scan selection).files = [] := by
  intro file project tree selection one other
  refine ⟨⟨fun path listed => ?_, by decide⟩, ⟨by decide, by decide⟩, ⟨by decide, by decide⟩,
    by decide +kernel, by decide +kernel⟩
  cases List.mem_singleton.mp listed
  exact ⟨by decide, .enter (by decide) (.stop ..)⟩

/-- A literal entry is read from the root, so it hides nothing below a link, and a pattern about names inside
of the project makes no difference between its copies. -/
theorem finds_alike_pages :
    let file := Entry.file [] false
    let entries := [(["docs"], Entry.directory), (["docs", "draft1.md"], file),
      (["docs", "intro.md"], file), (["docs", "old"], .directory), (["docs", "old", "intro.md"], file),
      (["pages"], .link (.ofText "docs"))]
    let copy (name : String) := ([name], Entry.directory) ::
      entries.map fun entry => (name :: entry.1, entry.2)
    let project := FileTree.ofEntries entries
    let tree := FileTree.ofEntries (copy "drafts" ++ copy "site")
    let selection : Selection :=
      ⟨[.ofText "docs", .ofText "pages"], ["md"], ["docs/old", "**/draft?.md"]⟩
    let one : Checkout project 1 :=
      ofTop tree 1 (.ofText "drafts") (by decide) (by decide) (by decide)
    let other : Checkout project 1 :=
      ofTop tree 1 (.ofText "site") (by decide) (by decide) (by decide)
    selection.StaysIn project 1 ∧ one.Reads selection ∧ other.Reads selection ∧
      one.found selection = other.found selection ∧
      one.found selection = [.ofText "docs/intro.md", .ofText "pages/intro.md",
        .ofText "pages/old/intro.md"] := by
  intro file entries copy project tree selection one other
  have stays : selection.StaysIn project 1 := by
    refine ⟨fun path listed => ?_, by decide⟩
    rcases List.mem_cons.mp listed with rfl | listed
    · exact ⟨by decide, .enter (by decide) (.stop ..)⟩
    · cases List.mem_singleton.mp listed
      have linked : project.get? ([] ++ [.ofText "pages"]) = some (.link (.ofText "docs")) := by decide
      exact ⟨by decide, .chase linked (by decide) (.enter (by decide) (.stop ..))⟩
  have reads : one.Reads selection := ⟨by decide +kernel, by decide +kernel⟩
  have reads' : other.Reads selection := ⟨by decide +kernel, by decide +kernel⟩
  obtain ⟨-, -, -, alike⟩ := finds_alike_iff one other stays reads reads'
  exact ⟨stays, reads, reads', alike.mpr (by decide +kernel), by decide +kernel⟩

end Checkout

end LocaleFamilies
