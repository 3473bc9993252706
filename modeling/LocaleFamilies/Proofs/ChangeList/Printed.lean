import LocaleFamilies.Proofs.ChangeList.Affected
import LocaleFamilies.Proofs.Path.Relative

/-! Printed paths as a change list. Paths below the root, printed from there and put in a list with commas,
are read back as the files that they were printed for, with one exception: a path that starts with the
root's own name is taken to be printed from one level higher, and that name is dropped. -/
namespace LocaleFamilies

/-- A file below a root whose path from there can stand in a list. -/
structure Path.IsListable (root file : Path) : Prop where
  valid : ∃ relative, file.relativeTo? root = some relative ∧
    (Bytes.text? relative.spelling).isSome = true
  some_char : file.displayFrom root ≠ ""
  comma_free : ',' ∉ (file.displayFrom root).toList
  front : ∀ char ∈ (file.displayFrom root).toList.head?, Text.isBlank char = false
  back : ∀ char ∈ (file.displayFrom root).toList.getLast?, Text.isBlank char = false

instance {root file : Path} : Decidable (root.IsListable file) :=
  decidable_of_iff
    ((file.relativeTo? root).any (fun relative => (Bytes.text? relative.spelling).isSome) = true ∧
      file.displayFrom root ≠ "" ∧ ',' ∉ (file.displayFrom root).toList ∧
      (file.displayFrom root).toList.head?.all (fun char => !Text.isBlank char) = true ∧
      (file.displayFrom root).toList.getLast?.all (fun char => !Text.isBlank char) = true) <| by
    simp only [Option.any_eq_true, Option.all_eq_true, Bool.not_eq_true']
    constructor
    · rintro ⟨valid, some_char, comma_free, front, back⟩
      exact ⟨valid, some_char, comma_free, front, back⟩
    · rintro ⟨valid, some_char, comma_free, front, back⟩
      exact ⟨valid, some_char, comma_free, front, back⟩

/-- A path that goes on from a root with the root's own name. -/
def Path.Echoes (root file : Path) : Prop :=
  ∃ name, root.fileName? = some name ∧ root.components ++ [.name name] <+: file.components

/-- What the printed path of a file is read as: the file, or the path without the echo of the root. -/
inductive Path.ReadsAs (root file meant : Path) : Prop
  | itself (plain : ¬ root.Echoes file) (same : meant.components = file.components)
  | shortened {name : Bytes} {rest : List Component} (named : root.fileName? = some name)
    (echoed : file.components = root.components ++ .name name :: rest)
    (dropped : meant.components = root.components ++ rest)

namespace Path

variable {root file : Path}

theorem normalize_congr {first second : Path} (same : first.components = second.components) :
    first.normalize = second.normalize := by
  rw [normalize, normalize, same]

theorem ReadsAs.components_eq {first second : Path} (one : ReadsAs root file first)
    (other : ReadsAs root file second) : first.components = second.components := by
  have echoes {name : Bytes} {rest : List Component} (named : root.fileName? = some name)
      (echoed : file.components = root.components ++ .name name :: rest) : root.Echoes file :=
    ⟨name, named, by rw [echoed]; simp⟩
  cases one with
  | itself plain same =>
    cases other with
    | itself _ same' => rw [same, same']
    | shortened named echoed _ => exact absurd (echoes named echoed) plain
  | shortened named echoed dropped =>
    cases other with
    | itself plain _ => exact absurd (echoes named echoed) plain
    | shortened named' echoed' dropped' =>
      rw [named, Option.some.injEq] at named'
      subst named'
      rw [echoed, List.append_cancel_left_eq, List.cons.injEq] at echoed'
      rw [dropped, dropped', echoed'.2]

theorem IsListable.exists_relative (listable : root.IsListable file) :
    ∃ relative : Path, file.components = root.components ++ relative.components ∧
      Path.ofText (file.displayFrom root) = relative := by
  obtain ⟨relative, left, valid⟩ := listable.valid
  obtain ⟨text, read⟩ := Option.isSome_iff_exists.mp valid
  have shown : file.displayFrom root = text := by
    rw [displayFrom, left, Option.getD_some, display, Bytes.text, read]
  refine ⟨relative, ?_, ?_⟩
  · unfold relativeTo? at left
    split at left
    · rename_i below
      cases left
      exact components_of_startsWith below
    · cases left
  · rw [shown, ofText, Bytes.ofText_of_text? read]

end Path

namespace ChangeList

variable {root file : Path}

/-- An entry that was printed for a file is read as that file, or without the echo of the root. -/
theorem readsAs_entry (absolute : root.isAbsolute = true) (listable : root.IsListable file) :
    root.ReadsAs file (entry root (Path.ofText (file.displayFrom root))) := by
  obtain ⟨relative, whole, printed⟩ := listable.exists_relative
  rw [printed]
  -- Nothing of the rest stands at the front of the file, so it has no root and no dot to start with.
  have behind {component : Component} (member : component ∈ relative.components) :
      component = .parent ∨ ∃ name, component = .name name := by
    have start := (Path.isAbsolute_iff root).mp absolute
    have tail : component ∈ file.components.tail := by
      cases top : root.components with
      | nil => rw [top] at start; cases start
      | cons first more => rw [whole, top]; simp [member]
    exact Path.of_mem_tail tail
  have joined {path : Path} (inside : ∀ component ∈ path.components, component ∈ relative.components) :
      (root.join path).components = root.components ++ path.components := by
    have start {component : Component} (first : path.components.head? = some component) :=
      behind (inside component (List.mem_of_head? first))
    refine Path.components_join_relative root ?_ fun dotted => ?_
    · rw [← Bool.not_eq_true, Path.isAbsolute_iff]
      intro rooted
      simpa using start rooted
    · simpa using start dotted
  have unrooted : relative.isAbsolute = false := by
    rw [← Bool.not_eq_true, Path.isAbsolute_iff]
    intro rooted
    simpa using behind (List.mem_of_head? rooted)
  have kept (plain : ¬ root.Echoes file) : root.ReadsAs file (root.join relative) :=
    .itself plain (by rw [joined fun _ member => member, whole])
  have echo {name : Bytes} (named : root.fileName? = some name) :
      root.Echoes file ↔ relative.components.head? = some (.name name) := by
    simp only [Path.Echoes, named, Option.some.injEq, exists_eq_left', whole,
      List.prefix_append_right_inj, List.singleton_prefix_iff_head?_eq_some]
  unfold entry
  rw [unrooted, if_neg Bool.false_ne_true]
  split
  · rename_i first name start named
    split
    · rename_i same
      subst same
      obtain ⟨rest, cut⟩ := List.head?_eq_some_iff.mp start
      have dropped := Path.components_dropComponents relative 1
      rw [cut, List.drop_one, List.tail_cons] at dropped
      refine .shortened named (by rw [whole, cut]) ?_
      rw [joined, dropped]
      rw [dropped, cut]
      exact fun component member => List.mem_cons_of_mem _ member
    · rename_i other
      refine kept fun echoes => other ?_
      have again := (echo named).mp echoes
      rw [start] at again
      cases again
      rfl
  · rename_i apart
    refine kept fun echoes => ?_
    obtain ⟨name, named, -⟩ := id echoes
    exact apart _ _ ((echo named).mp echoes) named

/-- What is listed counts under any spelling with the same normal form. -/
theorem contains_ofPaths_iff (paths : List Path) (path : Path) :
    (ofPaths paths).contains path = true ↔
      ∃ other ∈ paths, path.normalize.same other.normalize = true := by
  unfold ofPaths contains
  rw [SortedMap.contains_iff, SortedMap.mem_keys_ofList_iff, List.map_map, List.mem_map]
  refine exists_congr fun other => and_congr_right fun _ => ?_
  rw [Path.same, beq_iff_eq]
  exact eq_comm

/-- A list of clean entries is read entry by entry. -/
theorem parse_intercalate {texts : List String} (some_text : texts ≠ [])
    (clean : ∀ text ∈ texts, text ≠ "" ∧ ',' ∉ text.toList ∧ Text.trim text.toList = text.toList)
    (root : Path) :
    parse (",".intercalate texts) root =
      ofPaths (texts.map fun text => entry root (Path.ofText text)) := by
  have cut : Separated.parts ',' (",".intercalate texts).toList = texts.map String.toList := by
    rw [String.toList_intercalate, show ",".toList = [','] from rfl, ← Separated.join_eq_intercalate]
    refine Separated.parts_join ',' (by simpa using some_text) ?_
    rintro part member
    obtain ⟨text, listed, rfl⟩ := List.mem_map.mp member
    exact (clean text listed).2.1
  have supplied : (",".intercalate texts).isEmpty = false := by
    rw [Bool.eq_false_iff, Ne, String.isEmpty_iff]
    intro empty
    obtain ⟨text, listed⟩ := List.exists_mem_of_ne_nil texts some_text
    have part : text.toList ∈ Separated.parts ',' (",".intercalate texts).toList :=
      cut ▸ List.mem_map_of_mem listed
    rw [empty, String.toList_empty, Separated.parts_nil, List.mem_singleton] at part
    exact (clean text listed).1 (String.toList_eq_nil_iff.mp part)
  have trimmed : (texts.map String.toList).map Text.trim = texts.map String.toList := by
    rw [List.map_map]
    exact List.map_congr_left fun text listed => (clean text listed).2.2
  have named : (texts.map String.toList).filter (fun text => !text.isEmpty) =
      texts.map String.toList := by
    refine List.filter_eq_self.mpr fun part member => ?_
    obtain ⟨text, listed, rfl⟩ := List.mem_map.mp member
    simpa using (clean text listed).1
  rw [parse, supplied, if_neg Bool.false_ne_true]
  simp only [cut, trimmed, named, List.map_map]
  congr 1
  refine List.map_congr_left fun text _ => ?_
  rw [Function.comp_apply, String.ofList_toList]

theorem contains_parse_iff {files : List Path} (absolute : root.isAbsolute = true)
    (some_file : files ≠ []) (listable : ∀ file ∈ files, root.IsListable file) (path : Path) :
    (parse (",".intercalate (files.map (·.displayFrom root))) root).contains path = true ↔
      ∃ file ∈ files, ∃ meant, root.ReadsAs file meant ∧
        path.normalize.same meant.normalize = true := by
  have clean : ∀ text ∈ files.map (·.displayFrom root), text ≠ "" ∧ ',' ∉ text.toList ∧
      Text.trim text.toList = text.toList := by
    intro text printed
    obtain ⟨file, listed, rfl⟩ := List.mem_map.mp printed
    obtain ⟨-, some_char, comma_free, front, back⟩ := listable file listed
    exact ⟨some_char, comma_free, Text.trim_eq_self front back⟩
  rw [parse_intercalate (by simpa using some_file) clean, contains_ofPaths_iff]
  simp only [List.map_map, List.mem_map, exists_exists_and_eq_and, Function.comp_apply]
  refine exists_congr fun file => and_congr_right fun listed => ?_
  have reads := readsAs_entry absolute (listable file listed)
  constructor
  · exact fun same => ⟨_, reads, same⟩
  · rintro ⟨meant, reads', same⟩
    rwa [Path.normalize_congr (reads.components_eq reads')]

/-- A list printed for some files contains a path exactly if the path has the normal form of one of them,
where a file that goes on from the root with the root's own name counts without that name. So each of the
other files brings its family into the run, if it is the file that its family keeps. -/
theorem printed_list_selects {files : List Path} (absolute : root.isAbsolute = true)
    (some_file : files ≠ []) (listable : ∀ file ∈ files, root.IsListable file) :
    let changes := parse (",".intercalate (files.map (·.displayFrom root))) root
    changes.isFullScan = false ∧
      (∀ path, changes.contains path = true ↔
        ∃ file ∈ files, ∃ meant, root.ReadsAs file meant ∧
          path.normalize.same meant.normalize = true) ∧
      ∀ (registry : Registry) (paths : List Path), ∀ file ∈ files, ¬ root.Echoes file →
        (Grouping.of registry paths).member? (registry.slot file) = some file →
          ∃ family, (changes.affected (Grouping.of registry paths).families).get?
              (registry.slot file).1 = some family ∧
            family.get? (registry.slot file).2 = some file := by
  intro changes
  have selects := contains_parse_iff absolute some_file listable
  have chosen {file : Path} (listed : file ∈ files) (plain : ¬ root.Echoes file) :
      changes.contains file = true :=
    (selects file).mpr ⟨file, listed, file, .itself plain rfl, beq_self_eq_true _⟩
  refine ⟨?_, selects, fun registry paths file listed plain held =>
    Grouping.affected_of_member? held (chosen listed plain)⟩
  obtain ⟨file, listed⟩ := List.exists_mem_of_ne_nil files some_file
  have named := (selects _).mpr
    ⟨file, listed, _, readsAs_entry absolute (listable file listed), beq_self_eq_true _⟩
  rw [Bool.eq_false_iff, Ne, isFullScan_iff]
  intro full
  rw [show parse (",".intercalate (files.map (·.displayFrom root))) root = .fullScan from full] at named
  cases named

/-- The exception is real: `/site/site/intro.md`, printed from `/site`, is read as `/site/intro.md`, and
the family of the file that was meant is left out of the run. -/
theorem printed_list_misses :
    let root := Path.ofText "/site"
    let file := Path.ofText "/site/site/intro.md"
    let changes := parse (",".intercalate ([file].map (·.displayFrom root))) root
    root.isAbsolute = true ∧ root.normalize = root ∧ root.IsListable file ∧
      changes.contains file = false ∧ changes.contains (Path.ofText "/site/intro.md") = true ∧
      (changes.affected (Grouping.of .bilingual [file]).families).isEmpty = true ∧
      ¬ ∀ path, changes.contains path = true ↔
        ∃ other ∈ [file], path.normalize.same other.normalize = true := by
  intro root file changes
  have missed : changes.contains file = false := by decide
  refine ⟨by decide, by decide, by decide, missed, by decide, by decide, fun selects => ?_⟩
  have named := (selects file).mpr ⟨file, List.mem_singleton_self file, beq_self_eq_true _⟩
  rw [missed] at named
  cases named

/-- A list of two files, of which one echoes the root, selects the family of the other one. -/
theorem printed_list_selects_intro :
    let root := Path.ofText "/site"
    let files := ["/site/docs/intro.md", "/site/site/intro.zh.md"].map Path.ofText
    let changes := parse (",".intercalate (files.map (·.displayFrom root))) root
    root.isAbsolute = true ∧ files ≠ [] ∧ (∀ file ∈ files, root.IsListable file) ∧
      changes.contains (Path.ofText "/site/docs/old/../intro.md") = true ∧
      changes.contains (Path.ofText "/site/intro.zh.md") = true ∧
      ∃ family, (changes.affected (Grouping.of .bilingual files).families).get?
          (Registry.bilingual.slot (Path.ofText "/site/docs/intro.md")).1 = some family := by
  intro root files changes
  have absolute : root.isAbsolute = true := by decide
  have some_file : files ≠ [] := by decide
  have listable : ∀ file ∈ files, root.IsListable file := by decide
  obtain ⟨-, selects, affects⟩ := printed_list_selects absolute some_file listable
  have plain : ¬ root.Echoes (Path.ofText "/site/docs/intro.md") := by
    rintro ⟨name, named, goes_on⟩
    obtain rfl : Bytes.ofText "site" = name := Option.some.inj named
    exact absurd goes_on (by decide)
  have echoed : (Path.ofText "/site/site/intro.zh.md").components =
      root.components ++ .name (Bytes.ofText "site") :: [.name (Bytes.ofText "intro.zh.md")] := by
    decide
  refine ⟨absolute, some_file, listable, (selects _).mpr ⟨_, List.mem_cons_self, _,
    .itself plain rfl, by decide⟩, (selects (Path.ofText "/site/intro.zh.md")).mpr
      ⟨_, List.mem_cons_of_mem _ List.mem_cons_self, Path.ofText "/site/intro.zh.md",
        .shortened rfl echoed (by decide), by decide⟩, ?_⟩
  obtain ⟨family, found, -⟩ := affects .bilingual files (Path.ofText "/site/docs/intro.md")
    List.mem_cons_self plain (by decide)
  exact ⟨family, found⟩

end ChangeList

end LocaleFamilies
