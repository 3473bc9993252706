import LocaleFamilies.Family.Placement
import LocaleFamilies.Proofs.Bytes
import LocaleFamilies.Proofs.Path.Parts

/-! Slots: the family and the locale that a path is placed in, with the family known by the
components of its key. The slot of a file depends on the components of its path alone, so on the
directory that it lies in and on the stem of its name. -/
namespace LocaleFamilies

/-- A place for one file: the components of a family key, and a locale. -/
abbrev Slot := List Component × Code

namespace Registry

/-- Codes that can be told from the rest of a file name. -/
def HasPlainCodes (registry : Registry) : Prop :=
  ∀ code ∈ registry.codes, code ≠ "" ∧ '.' ∉ code.toList ∧ '/' ∉ code.toList

/-- A stem that is a supported code, or ends in one after a dot that does not start it. -/
def ShowsLocale (registry : Registry) (stem : Bytes) : Prop :=
  ∃ code ∈ registry.codes, stem = Bytes.ofText code ∨
    ∃ before, before ≠ [] ∧ stem = before ++ Bytes.dot :: Bytes.ofText code

instance (registry : Registry) : Decidable registry.HasPlainCodes :=
  inferInstanceAs (Decidable (∀ code ∈ registry.codes, _))

def bilingual : Registry := ⟨"en", .ofList [("en", "English"), ("zh", "Chinese")], by decide⟩

theorem ends_in_dot_iff (stem code : Bytes) :
    (∃ before, before ≠ [] ∧ stem = before ++ Bytes.dot :: code) ↔
      Bytes.dot :: code <:+ stem ∧ stem ≠ Bytes.dot :: code := by
  constructor
  · rintro ⟨before, some_byte, rfl⟩
    exact ⟨List.suffix_append _ _, by simpa using some_byte⟩
  · rintro ⟨⟨before, rfl⟩, more⟩
    exact ⟨before, by rintro rfl; exact more rfl, rfl⟩

instance (registry : Registry) (stem : Bytes) : Decidable (registry.ShowsLocale stem) :=
  decidable_of_iff
    (∃ code ∈ registry.codes, stem = Bytes.ofText code ∨
      Bytes.dot :: Bytes.ofText code <:+ stem ∧ stem ≠ Bytes.dot :: Bytes.ofText code)
    (by simp only [ShowsLocale, ends_in_dot_iff])

def slot (registry : Registry) (path : Path) : Slot :=
  ((registry.place path).key.components, (registry.place path).locale)

def placeIn (registry : Registry) (directory : Path) (stem : Bytes) : Placement :=
  match registry.marker? stem with
  | some (before, code) => ⟨directory.join ⟨before⟩, code, .dotted⟩
  | none =>
    match registry.code? stem with
    | some code => ⟨directory, code, .bare⟩
    | none => ⟨directory.join ⟨stem⟩, registry.defaultCode, .unmarked⟩

/-- The slot of a file with some stem in a directory with the given components. -/
def slotIn (registry : Registry) (directory : List Component) (stem : Bytes) : Slot :=
  match registry.marker? stem with
  | some (before, code) => (Path.lengthen directory before, code)
  | none =>
    match registry.code? stem with
    | some code => (directory, code)
    | none => (Path.lengthen directory stem, registry.defaultCode)

theorem supports_iff (registry : Registry) (code : Code) :
    registry.supports code = true ↔ code ∈ registry.codes :=
  SortedMap.contains_iff _ _

theorem code?_eq_some_iff (registry : Registry) (bytes : Bytes) (code : Code) :
    registry.code? bytes = some code ↔ bytes = Bytes.ofText code ∧ code ∈ registry.codes := by
  unfold code?
  rw [Option.filter_eq_some_iff, supports_iff]
  constructor
  · rintro ⟨read, supported⟩
    exact ⟨(Bytes.ofText_of_text? read).symm, supported⟩
  · rintro ⟨rfl, supported⟩
    exact ⟨Bytes.text?_ofText code, supported⟩

section Supported

variable (registry : Registry)

theorem defaultCode_mem : registry.defaultCode ∈ registry.codes :=
  (registry.supports_iff _).mp registry.default_supported

private theorem mem_of_marker? {stem before : Bytes} {code : Code}
    (found : registry.marker? stem = some (before, code)) : code ∈ registry.codes := by
  unfold marker? at found
  simp only at found
  split at found
  · rename_i marked start read cut
    cases found
    obtain ⟨ending, -, known⟩ := Option.bind_eq_some_iff.mp read
    exact ((registry.code?_eq_some_iff _ _).mp known).2
  · cases found

/-- Whatever the path, it is placed under a supported locale. -/
theorem slot_locale_mem (path : Path) : (registry.slot path).2 ∈ registry.codes := by
  unfold slot place
  simp only
  split
  · rename_i before code found
    exact registry.mem_of_marker? found
  · split
    · rename_i code found
      exact ((registry.code?_eq_some_iff _ _).mp found).2
    · exact registry.defaultCode_mem

end Supported

namespace HasPlainCodes

variable {registry : Registry} (plain : registry.HasPlainCodes) {code : Code}
  (supported : code ∈ registry.codes)

include plain supported

theorem bytes_ne_nil : Bytes.ofText code ≠ [] :=
  fun none => (plain code supported).1 ((Bytes.ofText_eq_nil_iff code).mp none)

theorem dot_not_mem : Bytes.dot ∉ Bytes.ofText code :=
  fun member => (plain code supported).2.1
    ((Bytes.mem_ofText_iff code '.' (by decide) (by decide)).mp member)

theorem slash_not_mem : Bytes.slash ∉ Bytes.ofText code :=
  fun member => (plain code supported).2.2
    ((Bytes.mem_ofText_iff code '/' (by decide) (by decide)).mp member)

end HasPlainCodes

section Marker

variable {registry : Registry} {stem before : Bytes} {code : Code}

private theorem splitName_of_extension {alone : Path} {ending start : Bytes}
    (extension : alone.extension? = some ending) (stem : alone.stem? = some start) :
    ∃ name, alone.fileName? = some name ∧ Path.splitName name = (start, some ending) := by
  unfold Path.extension? at extension
  unfold Path.stem? at stem
  obtain ⟨name, named, ends⟩ := Option.bind_eq_some_iff.mp extension
  rw [named, Option.map_some, Option.some.injEq] at stem
  exact ⟨name, named, by rw [← ends, ← stem]⟩

/-- A marker stands at the end of its stem, after something and a dot. -/
theorem marker?_some (unslashed : Bytes.slash ∉ stem)
    (found : registry.marker? stem = some (before, code)) :
    code ∈ registry.codes ∧ before ≠ [] ∧ stem = before ++ Bytes.dot :: Bytes.ofText code := by
  unfold marker? at found
  simp only at found
  split at found
  · rename_i marked start read cut
    cases found
    obtain ⟨ending, extension, supported⟩ := Option.bind_eq_some_iff.mp read
    obtain ⟨rfl, known⟩ := (registry.code?_eq_some_iff _ _).mp supported
    obtain ⟨name, named, parts⟩ := splitName_of_extension extension cut
    obtain ⟨rfl, some_byte, -⟩ := (Path.splitName_eq_some_iff _ _ _).mp parts
    refine ⟨known, some_byte, ?_⟩
    have ends := (Path.fileName?_eq_some_iff _ _).mp named
    rw [Path.components_stretch unslashed] at ends
    unfold Path.lengthen at ends
    split at ends
    · simp at ends
    · rw [List.nil_append] at ends
      cases counted : Path.component? stem with
      | none => simp [counted] at ends
      | some component =>
        simp only [counted, Option.toList_some, List.dropLast_singleton, List.nil_append,
          List.cons.injEq, and_true] at ends
        rw [ends] at counted
        exact ((Path.component?_eq_name_iff _ _).mp counted).1
  · cases found

theorem marker?_dot (plain : registry.HasPlainCodes) (supported : code ∈ registry.codes)
    (some_byte : before ≠ []) (unslashed : Bytes.slash ∉ before) :
    registry.marker? (before ++ Bytes.dot :: Bytes.ofText code) = some (before, code) := by
  have coded := plain.bytes_ne_nil supported
  have apart : Bytes.slash ∉ before ++ Bytes.dot :: Bytes.ofText code := by
    simp only [List.mem_append, List.mem_cons, not_or]
    exact ⟨unslashed, by decide, plain.slash_not_mem supported⟩
  have long : 3 ≤ (before ++ Bytes.dot :: Bytes.ofText code).length := by
    have := List.length_pos_iff.mpr some_byte
    have := List.length_pos_iff.mpr coded
    simp only [List.length_append, List.length_cons]
    omega
  have whole : (Path.mk (before ++ Bytes.dot :: Bytes.ofText code)).fileName? =
      some (before ++ Bytes.dot :: Bytes.ofText code) := by
    have short {other : Bytes} (size : other.length < 3) :
        before ++ Bytes.dot :: Bytes.ofText code ≠ other := by
      rintro rfl
      omega
    have ends : (Path.mk (before ++ Bytes.dot :: Bytes.ofText code)).components =
        [] ++ [.name (before ++ Bytes.dot :: Bytes.ofText code)] := by
      rw [Path.components_stretch apart, Path.lengthen, if_neg (fun both => short (by decide) both.2),
        Path.component?_name (short (by decide)) (short (by decide)) (short (by decide))]
      rfl
    exact Path.fileName?_of_components ends
  unfold marker? Path.extension? Path.stem?
  simp only [whole, Option.bind_some, Option.map_some,
    Path.splitName_dot some_byte (plain.dot_not_mem supported)]
  rw [(registry.code?_eq_some_iff _ _).mpr ⟨rfl, supported⟩]

theorem marker?_plain (unslashed : Bytes.slash ∉ stem) (undotted : Bytes.dot ∉ stem) :
    registry.marker? stem = none := by
  cases found : registry.marker? stem with
  | none => rfl
  | some marked =>
    obtain ⟨-, -, whole⟩ := marker?_some unslashed found
    exact absurd (by rw [whole]; simp) undotted

theorem showsLocale_of_marker? (unslashed : Bytes.slash ∉ stem)
    (found : registry.marker? stem = some (before, code)) : registry.ShowsLocale stem := by
  obtain ⟨supported, some_byte, whole⟩ := marker?_some unslashed found
  exact ⟨code, supported, Or.inr ⟨before, some_byte, whole⟩⟩

end Marker

section Reading

variable {registry : Registry} {stem : Bytes}

theorem slot_placeIn (directory : Path) (some_byte : stem ≠ []) (unslashed : Bytes.slash ∉ stem) :
    ((registry.placeIn directory stem).key.components, (registry.placeIn directory stem).locale) =
      registry.slotIn directory.components stem := by
  unfold placeIn slotIn
  split
  · rename_i before code found
    obtain ⟨-, nonempty, whole⟩ := marker?_some unslashed found
    have apart : Bytes.slash ∉ before := fun member => unslashed (by rw [whole]; simp [member])
    rw [Path.components_join directory nonempty apart]
  · split
    · rfl
    · rw [Path.components_join directory some_byte unslashed]

/-- A stem that shows no locale is read as the name of a document in the default locale. -/
theorem slotIn_unmarked (directory : List Component) (unslashed : Bytes.slash ∉ stem)
    (shows_none : ¬ registry.ShowsLocale stem) :
    registry.slotIn directory stem = (Path.lengthen directory stem, registry.defaultCode) := by
  have unmarked : registry.marker? stem = none := by
    cases found : registry.marker? stem with
    | none => rfl
    | some marked => exact absurd (showsLocale_of_marker? unslashed found) shows_none
  have other : registry.code? stem = none := by
    cases found : registry.code? stem with
    | none => rfl
    | some code =>
      obtain ⟨whole, supported⟩ := (registry.code?_eq_some_iff _ _).mp found
      exact absurd ⟨code, supported, Or.inl whole⟩ shows_none
  simp [slotIn, unmarked, other]

variable (plain : registry.HasPlainCodes) {code : Code} (supported : code ∈ registry.codes)

include plain supported

theorem slotIn_code (directory : List Component) :
    registry.slotIn directory (Bytes.ofText code) = (directory, code) := by
  unfold slotIn
  rw [marker?_plain (plain.slash_not_mem supported) (plain.dot_not_mem supported),
    (registry.code?_eq_some_iff _ _).mpr ⟨rfl, supported⟩]

theorem slotIn_dot (directory : List Component) {before : Bytes} (some_byte : before ≠ [])
    (unslashed : Bytes.slash ∉ before) :
    registry.slotIn directory (before ++ Bytes.dot :: Bytes.ofText code) =
      (Path.lengthen directory before, code) := by
  unfold slotIn
  rw [marker?_dot plain supported some_byte unslashed]

end Reading

theorem exists_placeIn (registry : Registry) {path : Path} {name : Bytes}
    (named : path.fileName? = some name) :
    ∃ directory : Path, directory.components = path.components.dropLast ∧ directory.IsTrim ∧
      registry.place path = registry.placeIn directory (Path.splitName name).1 := by
  obtain ⟨directory, parent, components, trim⟩ := Path.exists_parent named
  refine ⟨directory, components, trim, ?_⟩
  show registry.placeIn (path.parent?.getD .empty) (path.stem?.getD []) = _
  rw [parent, Path.stem?, named]
  rfl

/-- The slot of a path is read off its components. -/
theorem slot_eq_slotIn (registry : Registry) {path : Path} {name : Bytes}
    (named : path.fileName? = some name) :
    registry.slot path = registry.slotIn path.components.dropLast (Path.splitName name).1 := by
  obtain ⟨directory, components, -, placed⟩ := registry.exists_placeIn named
  obtain ⟨some_byte, unslashed⟩ := Path.splitName_stem_of_fileName? named
  rw [← components, ← slot_placeIn directory some_byte unslashed, slot, placed]

theorem slot_congr (registry : Registry) {first second : Path} {name : Bytes}
    (named : first.fileName? = some name) (same : first.components = second.components) :
    registry.slot first = registry.slot second := by
  have named' : second.fileName? = some name := by
    unfold Path.fileName? at named ⊢
    rw [← same, named]
  rw [registry.slot_eq_slotIn named, registry.slot_eq_slotIn named', same]

end Registry

end LocaleFamilies
