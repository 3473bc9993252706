import LocaleFamilies.Proofs.Family.Grouping

/-! Names with an extension, and the spelling of family keys. The key of a document ends in the start
of its name, unless the document is named after its locale and the key is the directory itself. -/
namespace LocaleFamilies

namespace Path

structure HasName (path : Path) (stem extension : Bytes) : Prop where
  named : path.fileName? = some (stem ++ Bytes.dot :: extension)
  some_byte : stem ≠ []
  undotted : Bytes.dot ∉ extension

/-- A file whose name has an extension and does not start with two dots. -/
structure IsDocument (path : Path) : Prop where
  extension : path.extension?.isSome = true
  name : ∀ name, path.fileName? = some name → ¬ [Bytes.dot, Bytes.dot] <+: name

instance (path : Path) : Decidable path.IsDocument :=
  decidable_of_iff
    (path.extension?.isSome = true ∧
      ∀ name ∈ path.fileName?, ¬ [Bytes.dot, Bytes.dot] <+: name)
    ⟨fun both => ⟨both.1, both.2⟩, fun document => ⟨document.extension, document.name⟩⟩

theorem exists_hasName {path : Path} (extended : path.extension?.isSome = true) :
    ∃ stem extension, path.HasName stem extension := by
  obtain ⟨extension, found⟩ := Option.isSome_iff_exists.mp extended
  obtain ⟨name, named, ends⟩ := Option.bind_eq_some_iff.mp found
  obtain ⟨whole, some_byte, undotted⟩ :=
    (splitName_eq_some_iff name (splitName name).1 extension).mp (by rw [← ends])
  exact ⟨_, extension, by rw [named, ← whole], some_byte, undotted⟩

namespace HasName

variable {path : Path} {stem extension : Bytes} (name : path.HasName stem extension)

include name

theorem splitName_eq : splitName (stem ++ Bytes.dot :: extension) = (stem, some extension) :=
  splitName_dot name.some_byte name.undotted

theorem stem?_eq : path.stem? = some stem := by
  rw [stem?, name.named, Option.map_some, name.splitName_eq]

theorem extension?_eq : path.extension? = some extension := by
  rw [extension?, name.named, Option.bind_some, name.splitName_eq]

theorem unslashed : Bytes.slash ∉ stem ∧ Bytes.slash ∉ extension := by
  have free := (name_of_fileName? name.named).1
  simp only [List.mem_append, List.mem_cons, not_or] at free
  exact ⟨free.1, free.2.2⟩

theorem not_parent : ¬ (stem = [Bytes.dot] ∧ extension = []) := by
  rintro ⟨rfl, rfl⟩
  exact (name_of_fileName? name.named).2.2.2 rfl

theorem components_eq :
    path.components = path.components.dropLast ++ [.name (stem ++ Bytes.dot :: extension)] :=
  (fileName?_eq_some_iff _ _).mp name.named

theorem slot_eq (registry : Registry) :
    registry.slot path = registry.slotIn path.components.dropLast stem := by
  rw [registry.slot_eq_slotIn name.named, name.splitName_eq]

end HasName

theorem hasName_append {directory : Path} (opened : directory.IsOpen) {stem extension : Bytes}
    (some_byte : stem ≠ []) (undotted : Bytes.dot ∉ extension)
    (unslashed : Bytes.slash ∉ stem ∧ Bytes.slash ∉ extension)
    (not_parent : ¬ (stem = [Bytes.dot] ∧ extension = [])) :
    (Path.mk (directory.spelling ++ (stem ++ Bytes.dot :: extension))).HasName stem extension ∧
      (Path.mk (directory.spelling ++ (stem ++ Bytes.dot :: extension))).components.dropLast =
        directory.components := by
  have free : Bytes.slash ∉ stem ++ Bytes.dot :: extension := by
    simp only [List.mem_append, List.mem_cons, not_or]
    exact ⟨unslashed.1, by decide, unslashed.2⟩
  have size := List.length_pos_iff.mpr some_byte
  have long {other : Bytes} (short : other.length < 2) :
      stem ++ Bytes.dot :: extension ≠ other := by
    rintro rfl
    simp only [List.length_append, List.length_cons] at short
    omega
  have not_dots : stem ++ Bytes.dot :: extension ≠ [Bytes.dot, Bytes.dot] := by
    intro dots
    have sizes := congrArg List.length dots
    simp only [List.length_append, List.length_cons, List.length_nil] at sizes
    have none : extension = [] := List.length_eq_zero_iff.mp (by omega)
    subst none
    have dotted : stem ++ [Bytes.dot] = [Bytes.dot] ++ [Bytes.dot] := dots
    exact not_parent ⟨List.append_cancel_right dotted, rfl⟩
  have whole : (Path.mk (directory.spelling ++ (stem ++ Bytes.dot :: extension))).components =
      directory.components ++ [.name (stem ++ Bytes.dot :: extension)] := by
    rw [components_append opened free, lengthen, if_neg (fun both => long (by decide) both.2),
      component?_name (long (by decide)) (long (by decide)) not_dots]
    rfl
  exact ⟨⟨fileName?_of_components whole, some_byte, undotted⟩, by rw [whole]; simp⟩

theorem IsTrim.exists_endsIn {path : Path} (trim : path.IsTrim) {name : Bytes}
    (named : path.fileName? = some name) : ∃ directory, path.EndsIn directory name := by
  rcases trim with empty | root | dot | ⟨directory, stretch, ends, counts⟩
  · rw [show path = ⟨[]⟩ by cases path; exact congrArg Path.mk empty] at named
    cases named
  · rw [show path = ⟨[Bytes.slash]⟩ by cases path; exact congrArg Path.mk root] at named
    cases named
  · rw [show path = ⟨[Bytes.dot]⟩ by cases path; exact congrArg Path.mk dot] at named
    cases named
  · have whole := (fileName?_eq_some_iff path name).mp named
    have grown : lengthen directory.components stretch =
        directory.components ++ (component? stretch).toList := by
      rw [lengthen, if_neg (fun both => by rw [both.2] at counts; cases counts)]
    obtain ⟨component, counted⟩ : ∃ component, component? stretch = some component := by
      rw [← Option.ne_none_iff_exists', Ne, component?_eq_none_iff, counts]
      simp
    rw [ends.components, grown, counted, Option.toList_some] at whole
    simp only [List.dropLast_concat, List.append_cancel_left_eq, List.cons.injEq, and_true] at whole
    rw [whole] at counted
    exact ⟨directory, by rw [← ((component?_eq_name_iff _ _).mp counted).1]; exact ends⟩

end Path

/-- A file is named after its locale when its stem is a supported code. -/
def Path.IsBare (registry : Registry) (path : Path) : Prop :=
  ∃ code ∈ registry.codes, path.stem? = some (Bytes.ofText code)

section Key

variable {registry : Registry} {path : Path} {stem extension : Bytes}

theorem exists_key_stretch (name : path.HasName stem extension) (not_bare : ¬ path.IsBare registry) :
    ∃ stretch rest, stretch ≠ [] ∧ Bytes.slash ∉ stretch ∧
      stem ++ Bytes.dot :: extension = stretch ++ Bytes.dot :: rest ∧
      (registry.slot path).1 = Path.lengthen path.components.dropLast stretch := by
  rw [name.slot_eq, Registry.slotIn]
  split
  · rename_i before code found
    obtain ⟨-, some_byte, whole⟩ := Registry.marker?_some name.unslashed.1 found
    refine ⟨before, Bytes.ofText code ++ Bytes.dot :: extension, some_byte, ?_, ?_, rfl⟩
    · exact fun member => name.unslashed.1 (by rw [whole]; simp [member])
    · rw [whole]
      simp
  · split
    · rename_i code found
      obtain ⟨same, supported⟩ := (registry.code?_eq_some_iff _ _).mp found
      exact absurd ⟨code, supported, by rw [name.stem?_eq, same]⟩ not_bare
    · exact ⟨stem, extension, name.some_byte, name.unslashed.1, rfl, rfl⟩

/-- The key that a file is placed under is the directory of the file, or lies in it under the start
of the name of the file. -/
private theorem key_cases (name : path.HasName stem extension) :
    (registry.place path).key.IsTrim ∨
      ∃ directory stretch rest, (registry.place path).key.EndsIn directory stretch ∧
        stem ++ Bytes.dot :: extension = stretch ++ Bytes.dot :: rest := by
  obtain ⟨directory, -, trim, placed⟩ := registry.exists_placeIn name.named
  rw [name.splitName_eq] at placed
  rw [placed, Registry.placeIn]
  split
  · rename_i before code found
    obtain ⟨-, some_byte, whole⟩ := Registry.marker?_some name.unslashed.1 found
    have unslashed : Bytes.slash ∉ before := fun member =>
      name.unslashed.1 (by rw [whole]; simp [member])
    refine Or.inr ⟨_, before, Bytes.ofText code ++ Bytes.dot :: extension,
      Path.endsIn_join directory some_byte unslashed, ?_⟩
    rw [whole]
    simp
  · split
    · exact Or.inl trim
    · exact Or.inr ⟨_, stem, extension,
        Path.endsIn_join directory name.some_byte name.unslashed.1, rfl⟩

theorem isTidy_key (extended : path.extension?.isSome = true) :
    (registry.place path).key.IsTidy := by
  obtain ⟨stem, extension, name⟩ := Path.exists_hasName extended
  rcases key_cases name with trim | ⟨directory, stretch, -, ends, -⟩
  · exact trim.isTidy
  · exact Or.inr (Or.inr ⟨directory, stretch, ends⟩)

private theorem start_of_document (document : path.IsDocument)
    (name : path.HasName stem extension) {stretch rest : Bytes}
    (start : stem ++ Bytes.dot :: extension = stretch ++ Bytes.dot :: rest) :
    stretch ≠ [Bytes.dot] ∧ stretch ≠ [Bytes.dot, Bytes.dot] := by
  have clear := document.name _ name.named
  rw [start] at clear
  constructor
  · rintro rfl
    exact clear ⟨rest, rfl⟩
  · rintro rfl
    exact clear ⟨Bytes.dot :: rest, rfl⟩

theorem Path.IsDocument.isTrim_key (document : path.IsDocument) :
    (registry.place path).key.IsTrim := by
  obtain ⟨stem, extension, name⟩ := Path.exists_hasName document.extension
  rcases key_cases name with trim | ⟨directory, stretch, rest, ends, start⟩
  · exact trim
  · have not_dot := (start_of_document document name start).1
    refine Or.inr (Or.inr (Or.inr ⟨directory, stretch, ends, ?_⟩))
    simp [Path.isFiller, ends.some_byte, not_dot]

theorem Path.IsDocument.exists_key_name (document : path.IsDocument)
    (not_bare : ¬ path.IsBare registry) :
    ∃ stretch, (registry.slot path).1 = path.components.dropLast ++ [.name stretch] := by
  obtain ⟨stem, extension, name⟩ := Path.exists_hasName document.extension
  obtain ⟨stretch, rest, some_byte, -, start, keyed⟩ := exists_key_stretch name not_bare
  obtain ⟨not_dot, not_dots⟩ := start_of_document document name start
  exact ⟨stretch, by rw [keyed, Path.lengthen_name some_byte not_dot not_dots]⟩

end Key

end LocaleFamilies
