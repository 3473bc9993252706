import LocaleFamilies.Config.Basic
import LocaleFamilies.Proofs.Path.Parts
import LocaleFamilies.Proofs.Scan.Exactness
import LocaleFamilies.Translation.Pass
import Mathlib.Data.List.DropRight

/-! What a scan makes of a valid configuration. Its ignore entries are paths and patterns that can be read,
so none of them is left out. The extension of a name is what follows its last dot, so of a listed extension
only that part decides. -/
namespace LocaleFamilies

namespace Config

def selection (config : Config) : Selection :=
  ⟨config.scanDirs.map .ofText, config.extensions, config.ignores⟩

/-- What follows the last dot of an extension: all of it if it has no dot. -/
def suffix (extension : String) : String :=
  String.ofList (extension.toList.rtakeWhile fun c => c != '.')

theorem scan_ofConfig {tree : FileTree} {directory : Location} {root : Path} {config : Config}
    {changed : Option String} {verbose : Bool} {project : Project}
    (opened : Project.ofConfig tree directory root config changed verbose = .ok project) :
    project.scan tree directory = Scan.of tree directory root config.selection := by
  unfold Project.ofConfig at opened
  cases registry : (config.registry tree directory root).mapError Project.Error.locales with
  | error cause => simp [registry, bind, Except.bind] at opened
  | ok registry =>
    simp only [registry, bind, Except.bind, pure, Except.pure, Except.ok.injEq] at opened
    rw [← opened]
    rfl

theorem checkIgnore_eq_ok_iff (root : Path) (entry : String) :
    checkIgnore entry = .ok () ↔ ∃ ignore, Ignore.read root entry = .ok ignore := by
  unfold checkIgnore Ignore.read
  cases Glob.hasWildcard entry with
  | false => simp
  | true => cases Glob.read entry <;> simp [Functor.map, Except.map]

theorem forM_eq_ok_iff {α ε : Type} (check : α → Except ε Unit) (list : List α) :
    list.forM check = .ok () ↔ ∀ a ∈ list, check a = .ok () := by
  induction list with
  | nil => exact iff_of_true rfl (List.forall_mem_nil _)
  | cons a rest ih =>
    rw [List.forall_mem_cons, ← ih]
    show (check a).bind (fun _ => rest.forM check) = .ok () ↔ _
    cases check a <;> simp [Except.bind]

theorem validate_eq_ok_iff (config : Config) : config.validate = .ok () ↔
    (∀ entry ∈ config.ignores, checkIgnore entry = .ok ()) ∧ config.scanDirs ≠ [] ∧
      ∀ extension ∈ config.extensions, isExtension extension = true := by
  rw [validate, ← forM_eq_ok_iff]
  cases config.ignores.forM checkIgnore with
  | error cause => simp [bind, Except.bind]
  | ok done =>
    cases config.scanDirs with
    | nil => simp [bind, Except.bind, throw, throwThe, MonadExceptOf.throw]
    | cons first rest =>
      cases search : config.extensions.find? fun extension => !isExtension extension with
      | none =>
        rw [List.find?_eq_none] at search
        simp only [bind, Except.bind, pure, Except.pure]
        simpa using search
      | some extension =>
        have member := List.mem_of_find?_eq_some search
        have refused := List.find?_some search
        simp only [bind, Except.bind]
        refine iff_of_false (by simp [throw, throwThe, MonadExceptOf.throw]) fun all => ?_
        simp [all.2.2 extension member] at refused

theorem suffix_cases (extension : String) : '.' ∉ (suffix extension).toList ∧
    (extension = suffix extension ∨ ∃ front, extension = front ++ "." ++ suffix extension) := by
  have whole : extension.toList =
      (extension.toList.rdropWhile fun c => c != '.') ++ (suffix extension).toList := by
    rw [suffix, String.toList_ofList, List.rdropWhile_append_rtakeWhile]
  have last := @List.rdropWhile_last_not _ (fun c => c != '.') extension.toList
  generalize (extension.toList.rdropWhile fun c => c != '.') = front at whole last
  constructor
  · rw [suffix, String.toList_ofList]
    intro member
    simpa using List.mem_rtakeWhile_imp member
  · rcases List.eq_nil_or_concat front with rfl | ⟨before, dot, rfl⟩
    · rw [List.nil_append] at whole
      exact Or.inl (String.toList_inj.mp whole)
    · obtain rfl : dot = '.' := by simpa using last (by simp)
      refine Or.inr ⟨String.ofList before, String.toList_inj.mp ?_⟩
      rw [whole, List.concat_eq_append, String.toList_append, String.toList_append,
        String.toList_ofList]
      rfl

end Config

namespace Path

variable {path : Path}

/-- The extension of a name that goes on from some bytes with a dot and a text is what follows the last dot of
the text. -/
theorem extension?_of_fileName? {base : Bytes} {extension : String} (some_byte : base ≠ [])
    (named : path.fileName? = some (base ++ Bytes.dot :: Bytes.ofText extension)) :
    path.extension? = some (Bytes.ofText (Config.suffix extension)) := by
  obtain ⟨free, shape⟩ := Config.suffix_cases extension
  have free : Bytes.dot ∉ Bytes.ofText (Config.suffix extension) :=
    fun member => free ((Bytes.mem_ofText_iff _ '.' (by decide) (by decide)).mp member)
  rw [extension?, named, Option.bind_some]
  rcases shape with same | ⟨front, same⟩
  · rw [← same] at free ⊢
    rw [splitName_dot some_byte free]
  · have spelled : base ++ Bytes.dot :: Bytes.ofText extension =
        (base ++ Bytes.dot :: Bytes.ofText front) ++
          Bytes.dot :: Bytes.ofText (Config.suffix extension) := by
      conv_lhs => rw [same, Bytes.ofText_append, Bytes.ofText_append]
      have dot : Bytes.ofText "." = [Bytes.dot] := by decide
      simp [dot]
    rw [spelled, splitName_dot (by simp) free]

end Path

namespace Config

open FileTree Scan

variable {tree : FileTree} {directory location : Location} {root start path : Path}
  {config : Config} {way : List Bytes} {entry : Entry}

theorem discarded_eq_nil (valid : config.validate = .ok ()) :
    (Scan.of tree directory root config.selection).discarded = [] := by
  refine List.filterMap_eq_nil_iff.mpr fun entry listed => ?_
  have checked := ((validate_eq_ok_iff config).mp valid).1 entry listed
  obtain ⟨ignore, read⟩ := (checkIgnore_eq_ok_iff root entry).mp checked
  rw [read]

/-- A file in a directory that is scanned is found if it has a listed extension and is not ignored. -/
theorem mem_files_iff (listed : start ∈ config.selection.starts root)
    (readable : tree.IsReadable directory start)
    (reaches : tree.Reaches directory start way location entry) (file : entry.IsFile)
    (spared : ∀ ignore ∈ ignoresOf root config.selection,
      ¬ ignore.covers (descend start way) = true) :
    descend start way ∈ (Scan.of tree directory root config.selection).files ↔
      hasExtension config.extensions (descend start way) = true := by
  have files (path : Path) : path ∈ (Scan.of tree directory root config.selection).files ↔
      ∃ start ∈ config.selection.starts root, path ∈ (visits tree directory start).filterMap
        (file? config.extensions (ignoresOf root config.selection)) := List.mem_flatMap
  rw [files]
  constructor
  · rintro ⟨start', -, member⟩
    obtain ⟨seen, -, shown⟩ := List.mem_filterMap.mp member
    exact (file?_eq_some_iff.mp shown).2.1
  · intro wanted
    obtain ⟨ways, found, enumerates⟩ := exists_ways tree directory start config.extensions
      (ignoresOf root config.selection)
    refine ⟨start, listed, found ▸ List.mem_map_of_mem ((enumerates.exact way).mpr ?_)⟩
    have wants : config.selection.Wants root (descend start way) := wants_iff.mpr ⟨wanted, spared⟩
    exact (finds_iff readable).mpr ⟨⟨location, entry, reaches, file⟩, wants⟩

/-- No ignore entry of a valid configuration is left out. A file in a directory that is scanned, with a name
that ends in a dot and a listed extension, and that is not ignored, is found exactly if what follows the
last dot of that extension is listed; so it is if the extension has no dot. -/
theorem finds_listed_iff (tree : FileTree) (directory : Location) (root : Path)
    (valid : config.validate = .ok ())
    (readable : ∀ start ∈ config.selection.starts root, tree.IsReadable directory start) :
    let scan := Scan.of tree directory root config.selection
    scan.discarded = [] ∧ ∀ start ∈ config.selection.starts root, ∀ way location entry,
      tree.Reaches directory start way location entry → entry.IsFile →
        ∀ base, base ≠ [] → ∀ extension ∈ config.extensions,
          (descend start way).fileName? = some (base ++ Bytes.dot :: Bytes.ofText extension) →
            (∀ ignore ∈ ignoresOf root config.selection,
              ¬ ignore.covers (descend start way) = true) →
              (descend start way ∈ scan.files ↔ suffix extension ∈ config.extensions) ∧
                ('.' ∉ extension.toList → descend start way ∈ scan.files) := by
  refine ⟨discarded_eq_nil valid, ?_⟩
  intro start listed way location entry reaches file base some_byte extension member named spared
  have found : descend start way ∈ (Scan.of tree directory root config.selection).files ↔
      suffix extension ∈ config.extensions := by
    rw [mem_files_iff listed (readable start listed) reaches file spared, hasExtension_iff,
      Path.extension?_of_fileName? some_byte named]
    constructor
    · rintro ⟨other, inside, same⟩
      have texts := congrArg Bytes.text? (Option.some.inj same)
      rw [Bytes.text?_ofText, Bytes.text?_ofText, Option.some.injEq] at texts
      exact texts ▸ inside
    · exact fun inside => ⟨_, inside, rfl⟩
  refine ⟨found, fun plain => found.mpr ?_⟩
  have whole : suffix extension = extension := by
    rw [suffix, List.rtakeWhile_eq_self_iff.mpr fun c inside => ?_, String.ofList_toList]
    rw [bne_iff_ne]
    rintro rfl
    exact plain inside
  rwa [whole]

/-- A valid configuration can list an extension that no name has, since a dot within it is let through. -/
theorem misses_dotted_extension :
    let names := ["docs", "intro.md.txt"].map Bytes.ofText
    let tree := FileTree.ofEntries [(["docs"], .directory), (["docs", "intro.md.txt"], .file [] false)]
    let root := Path.ofText "/"
    let config := { Config.initial with scanDirs := ["docs"], extensions := ["md.txt"] }
    config.validate = .ok () ∧ (∀ start ∈ config.selection.starts root, tree.IsReadable [] start) ∧
      tree.Reaches [] (.ofText "/docs") names.tail names (.file [] false) ∧ config.ignores = [] ∧
      ∃ project, Project.ofConfig tree [] root config none false = .ok project ∧
        (project.scan tree []).files = [] := by
  intro names tree root config
  have opened : tree.entryAt [] true (.ofText "/docs") = .ok ([Bytes.ofText "docs"], .directory) := by
    decide
  refine ⟨by decide, by decide, ?_, rfl, ?_⟩
  · exact .below opened (by decide) (by decide)
  · obtain ⟨project, loaded⟩ : ∃ project, Project.ofConfig tree [] root config none false =
        .ok project := ⟨_, rfl⟩
    refine ⟨project, loaded, ?_⟩
    rw [scan_ofConfig loaded]
    decide

/-- Of two archives with a listed extension the one is found whose last part is listed as well. -/
theorem finds_listed_iff_archives :
    let file := Entry.file [] false
    let tree := FileTree.ofEntries [(["docs"], .directory), (["docs", "notes.tar.gz"], file),
      (["docs", "notes.tar.xz"], file)]
    let config := { Config.initial with
      scanDirs := ["docs"], extensions := ["tar.gz", "tar.xz", "gz"], ignores := ["docs/old", "*.md"] }
    let scan := Scan.of tree [] (.ofText "/") config.selection
    config.validate = .ok () ∧
      (∀ start ∈ config.selection.starts (.ofText "/"), tree.IsReadable [] start) ∧
      scan.discarded = [] ∧ .ofText "/docs/notes.tar.gz" ∈ scan.files ∧
      .ofText "/docs/notes.tar.xz" ∉ scan.files := by
  intro file tree config scan
  have valid : config.validate = .ok () := by decide +kernel
  have readable : ∀ start ∈ config.selection.starts (.ofText "/"), tree.IsReadable [] start := by
    decide
  have opened : tree.entryAt [] true (.ofText "/docs") = .ok ([Bytes.ofText "docs"], .directory) := by
    decide
  obtain ⟨kept, finds⟩ := finds_listed_iff tree [] (.ofText "/") valid readable
  have found := finds (.ofText "/docs") (by decide) [Bytes.ofText "notes.tar.gz"] _ file
    (.below opened (by decide) (by decide)) ⟨_, _, rfl⟩ (Bytes.ofText "notes") (by decide) "tar.gz"
    (by decide) (by decide) (by decide +kernel)
  have missed := finds (.ofText "/docs") (by decide) [Bytes.ofText "notes.tar.xz"] _ file
    (.below opened (by decide) (by decide)) ⟨_, _, rfl⟩ (Bytes.ofText "notes") (by decide) "tar.xz"
    (by decide) (by decide) (by decide +kernel)
  exact ⟨valid, readable, kept, found.1.mpr (by decide),
    fun member => absurd (missed.1.mp member) (by decide)⟩

end Config

end LocaleFamilies
