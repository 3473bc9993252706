import LocaleFamilies.Proofs.Family.Naming
import LocaleFamilies.Proofs.Translation.Plans

/-! Destinations read back. A file made for a locale of a family is placed in that family and locale
when it is found, with one exception: the default locale gets no marker, so the new file shows the
locale that the last name of the key happens to show. -/
namespace LocaleFamilies.Plan

variable {registry : Registry} {source : Path} {stem extension : Bytes}

theorem isBare_iff : isBare registry source = true ↔ source.IsBare registry := by
  unfold isBare Path.IsBare
  rw [Option.isSome_iff_exists]
  constructor
  · rintro ⟨code, found⟩
    obtain ⟨stem, named, read⟩ := Option.bind_eq_some_iff.mp found
    obtain ⟨rfl, supported⟩ := (registry.code?_eq_some_iff _ _).mp read
    exact ⟨code, supported, named⟩
  · rintro ⟨code, supported, named⟩
    exact ⟨code, by rw [named]; exact (registry.code?_eq_some_iff _ _).mpr ⟨rfl, supported⟩⟩

instance (registry : Registry) (path : Path) : Decidable (path.IsBare registry) :=
  decidable_of_iff _ isBare_iff

/-- What a destination shows is what it was made for. -/
def ReadsBack (registry : Registry) (plan : Plan) (target : Target) : Prop :=
  registry.slot target.path = plan.slotOf target

/-- A creation of the default locale whose name shows a locale although it has no marker. -/
def IsMasked (registry : Registry) (plan : Plan) (target : Target) : Prop :=
  ¬ plan.source.path.IsBare registry ∧ target.locale = registry.defaultCode ∧
    ∃ name, plan.key.fileName? = some name ∧ registry.ShowsLocale name

instance (registry : Registry) (plan : Plan) (target : Target) :
    Decidable (plan.ReadsBack registry target) :=
  inferInstanceAs (Decidable (registry.slot target.path = _))

instance (registry : Registry) (plan : Plan) (target : Target) :
    Decidable (plan.IsMasked registry target) :=
  inferInstanceAs (Decidable (¬ plan.source.path.IsBare registry ∧
    target.locale = registry.defaultCode ∧
      ∃ name ∈ plan.key.fileName?, registry.ShowsLocale name))

theorem ending_eq (name : source.HasName stem extension) :
    ending source = Bytes.dot :: extension := by
  rw [ending, name.extension?_eq]

/-- A destination is spelled with the ending of its source, so without a slash at its end. -/
theorem exists_endsIn_destination (key : Path) (name : source.HasName stem extension)
    (locale : Code) :
    ∃ opening stretch, (destination registry key source locale).EndsIn opening stretch := by
  have spelled : ∃ before, destination registry key source locale =
      ⟨before ++ Bytes.dot :: extension⟩ := by
    unfold destination Path.join
    rw [ending_eq name]
    split
    · split
      · exact ⟨_, rfl⟩
      · split
        · exact ⟨key.spelling ++ Bytes.ofText locale, by simp⟩
        · exact ⟨key.spelling ++ Bytes.slash :: Bytes.ofText locale, by simp⟩
    · split
      · exact ⟨key.spelling, rfl⟩
      · exact ⟨key.spelling ++ Bytes.dot :: Bytes.ofText locale, by simp⟩
  obtain ⟨before, whole⟩ := spelled
  rw [whole]
  refine Path.exists_endsIn (by simp) ?_ before
  simp only [List.mem_cons, not_or]
  exact ⟨by decide, name.unslashed.2⟩

section Destination

variable (plain : registry.HasPlainCodes) {key : Path} {locale : Code}

include plain in
/-- Beside a source named after its locale, a new file is read as meant. -/
theorem destination_bare (name : source.HasName stem extension) (bare : source.IsBare registry)
    (supported : locale ∈ registry.codes) :
    (destination registry key source locale).HasName (Bytes.ofText locale) extension ∧
      (destination registry key source locale).components.dropLast = key.components ∧
      registry.slot (destination registry key source locale) = (key.components, locale) := by
  have coded := plain.bytes_ne_nil supported
  have undotted := plain.dot_not_mem supported
  have unslashed := And.intro (plain.slash_not_mem supported) name.unslashed.2
  have spelled : destination registry key source locale =
      ⟨key.opened.spelling ++ (Bytes.ofText locale ++ Bytes.dot :: extension)⟩ := by
    rw [destination, if_pos (isBare_iff.mpr bare), ending_eq name]
    apply Path.join_eq_opened key
    simp only [List.mem_append, List.mem_cons, not_or]
    exact ⟨unslashed.1, by decide, unslashed.2⟩
  obtain ⟨read, directory⟩ := Path.hasName_append (Path.isOpen_opened key) coded name.undotted
    unslashed (fun both => undotted (by rw [both.1]; simp))
  rw [Path.components_opened] at directory
  rw [spelled]
  exact ⟨read, directory, by rw [read.slot_eq, directory, Registry.slotIn_code plain supported]⟩

variable {directory : Path} {stretch : Bytes} (ends : key.EndsIn directory stretch)
  (not_bare : ¬ source.IsBare registry)

include ends not_bare

/-- The marker of another locale than the default one stands between the last stretch of the key and the
extension. -/
theorem hasName_destination_marked (name : source.HasName stem extension)
    (other : locale ≠ registry.defaultCode) (unslashed : Bytes.slash ∉ Bytes.ofText locale) :
    (destination registry key source locale).HasName
        (stretch ++ Bytes.dot :: Bytes.ofText locale) extension ∧
      (destination registry key source locale).components.dropLast = directory.components := by
  have spelled : destination registry key source locale = ⟨directory.spelling ++
      ((stretch ++ Bytes.dot :: Bytes.ofText locale) ++ Bytes.dot :: extension)⟩ := by
    rw [destination, if_neg (fun bare => not_bare (isBare_iff.mp bare)), if_neg other,
      ending_eq name, ends.spelled]
    simp
  have free : Bytes.slash ∉ stretch ++ Bytes.dot :: Bytes.ofText locale := by
    simp only [List.mem_append, List.mem_cons, not_or]
    exact ⟨ends.plain, by decide, unslashed⟩
  have long : stretch ++ Bytes.dot :: Bytes.ofText locale ≠ [Bytes.dot] := by
    intro short
    have sizes := congrArg List.length short
    have := List.length_pos_iff.mpr ends.some_byte
    simp only [List.length_append, List.length_cons, List.length_nil] at sizes
    omega
  rw [spelled]
  exact Path.hasName_append ends.opened (by simp) name.undotted ⟨free, name.unslashed.2⟩
    fun both => long both.1

include plain in
/-- Behind the marker of another locale than the default one, a new file is read as meant. -/
theorem destination_marked (name : source.HasName stem extension)
    (supported : locale ∈ registry.codes) (other : locale ≠ registry.defaultCode) :
    (destination registry key source locale).HasName
        (stretch ++ Bytes.dot :: Bytes.ofText locale) extension ∧
      (destination registry key source locale).components.dropLast = directory.components ∧
      registry.slot (destination registry key source locale) = (key.components, locale) := by
  obtain ⟨read, parent⟩ := hasName_destination_marked ends not_bare name other
    (plain.slash_not_mem supported)
  refine ⟨read, parent, ?_⟩
  rw [read.slot_eq, parent, Registry.slotIn_dot plain supported _ ends.some_byte ends.plain,
    ends.components]

/-- The new file of the default locale is read off the last stretch of the key. -/
theorem destination_unmarked (name : source.HasName stem extension)
    (not_parent : ¬ (stretch = [Bytes.dot] ∧ extension = [])) :
    (destination registry key source registry.defaultCode).HasName stretch extension ∧
      (destination registry key source registry.defaultCode).components.dropLast =
        directory.components ∧
      registry.slot (destination registry key source registry.defaultCode) =
        registry.slotIn directory.components stretch := by
  have spelled : destination registry key source registry.defaultCode =
      ⟨directory.spelling ++ (stretch ++ Bytes.dot :: extension)⟩ := by
    rw [destination, if_neg (fun bare => not_bare (isBare_iff.mp bare)), if_pos rfl,
      ending_eq name, ends.spelled]
    simp
  obtain ⟨read, parent⟩ := Path.hasName_append ends.opened ends.some_byte name.undotted
    ⟨ends.plain, name.unslashed.2⟩ not_parent
  rw [spelled]
  exact ⟨read, parent, by rw [read.slot_eq, parent]⟩

end Destination

theorem slotIn_ne_of_showsLocale (plain : registry.HasPlainCodes) {name : Bytes}
    (unslashed : Bytes.slash ∉ name) (shown : registry.ShowsLocale name)
    (directory : List Component) :
    (registry.slotIn directory name).1 ≠ directory ++ [.name name] := by
  obtain ⟨code, supported, rfl | ⟨before, some_byte, rfl⟩⟩ := shown
  · rw [Registry.slotIn_code plain supported]
    simp
  · have free : Bytes.slash ∉ before := fun member => unslashed (by simp [member])
    rw [Registry.slotIn_dot plain supported _ some_byte free]
    intro same
    have whole := Path.eq_of_lengthen_eq same rfl
    have sizes := congrArg List.length whole
    simp at sizes

section Document

variable (plain : registry.HasPlainCodes) {key : Path} {locale : Code}
  (document : source.IsDocument) (trim : key.IsTrim)
  (keyed : (registry.slot source).1 = key.components)

include document trim keyed in
theorem exists_key_directory (not_bare : ¬ source.IsBare registry) :
    ∃ directory name, key.EndsIn directory name ∧ key.fileName? = some name ∧
      key.components = directory.components ++ [.name name] ∧
      directory.components = source.components.dropLast := by
  obtain ⟨name, counted⟩ := document.exists_key_name not_bare
  rw [keyed] at counted
  have named := Path.fileName?_of_components counted
  obtain ⟨-, some_byte, not_dot, not_dots⟩ := Path.name_of_fileName? named
  obtain ⟨directory, ends⟩ := trim.exists_endsIn named
  have whole : key.components = directory.components ++ [.name name] := by
    rw [ends.components, Path.lengthen_name some_byte not_dot not_dots]
  exact ⟨directory, name, ends, named, whole, List.append_cancel_right (whole.symm.trans counted)⟩

variable (supported : locale ∈ registry.codes)

include plain document trim keyed supported

/-- A new file beside a document is read as meant, unless it is for the default locale, goes without
a marker, and the last name of the key shows a locale itself. -/
theorem slot_destination_iff :
    registry.slot (destination registry key source locale) = (key.components, locale) ↔
      source.IsBare registry ∨ locale ≠ registry.defaultCode ∨
        ∀ name, key.fileName? = some name → ¬ registry.ShowsLocale name := by
  obtain ⟨stem, extension, name⟩ := Path.exists_hasName document.extension
  by_cases bare : source.IsBare registry
  · exact iff_of_true (destination_bare plain name bare supported).2.2 (Or.inl bare)
  obtain ⟨directory, stretch, ends, named, whole, -⟩ := exists_key_directory document trim keyed bare
  obtain ⟨unslashed, some_byte, not_dot, not_dots⟩ := Path.name_of_fileName? named
  by_cases other : locale ≠ registry.defaultCode
  · exact iff_of_true (destination_marked plain ends bare name supported other).2.2
      (Or.inr (Or.inl other))
  rw [Decidable.not_not] at other
  subst other
  obtain ⟨-, -, read⟩ := destination_unmarked ends bare name fun both => not_dot both.1
  rw [read, whole]
  constructor
  · intro same
    refine Or.inr (Or.inr fun name' named' shown => ?_)
    rw [named, Option.some.injEq] at named'
    subst named'
    exact slotIn_ne_of_showsLocale plain unslashed shown directory.components
      (congrArg Prod.fst same)
  · rintro (here | apart | clear)
    · exact absurd here bare
    · exact absurd rfl apart
    · rw [Registry.slotIn_unmarked _ unslashed (clear stretch named),
        Path.lengthen_name some_byte not_dot not_dots]

/-- A new file lies beside the document that it is made from, and has its extension. -/
theorem destination_beside :
    (destination registry key source locale).extension? = source.extension? ∧
      (destination registry key source locale).components.dropLast =
        source.components.dropLast := by
  obtain ⟨stem, extension, name⟩ := Path.exists_hasName document.extension
  rw [name.extension?_eq]
  by_cases bare : source.IsBare registry
  · obtain ⟨read, beside, -⟩ := destination_bare plain name bare supported
    refine ⟨read.extension?_eq, ?_⟩
    obtain ⟨code, known, coded⟩ := bare
    rw [name.stem?_eq, Option.some.injEq] at coded
    rw [beside, ← keyed, name.slot_eq, coded, Registry.slotIn_code plain known]
  obtain ⟨directory, stretch, ends, named, -, same⟩ := exists_key_directory document trim keyed bare
  rw [← same]
  by_cases other : locale = registry.defaultCode
  · subst other
    obtain ⟨read, beside, -⟩ := destination_unmarked ends bare name fun both =>
      (Path.name_of_fileName? named).2.2.1 both.1
    exact ⟨read.extension?_eq, beside⟩
  · obtain ⟨read, beside, -⟩ := destination_marked plain ends bare name supported other
    exact ⟨read.extension?_eq, beside⟩

end Document

section Family

variable {paths : List Path} {family : Family} {changes : ChangeList} {elected : Source}

theorem isTrim_family_key (documents : ∀ path ∈ paths, path.IsDocument)
    (member : family ∈ (Grouping.of registry paths).families.families) : family.key.IsTrim := by
  obtain ⟨key, found⟩ := Grouping.get?_of_mem_families registry paths member
  obtain ⟨-, first, listed, keyed⟩ := Grouping.key_of_get? registry paths found
  rw [← keyed]
  exact (documents first listed).isTrim_key

variable (plain : registry.HasPlainCodes) (documents : ∀ path ∈ paths, path.IsDocument)
  (member : family ∈ (Grouping.of registry paths).families.families)
  (held : (Election.hold family registry.defaultCode changes).source? = some elected)
  {target : Target} (created : target ∈ (make registry family elected).create)

include plain documents member held created

theorem slot_create_iff :
    registry.slot target.path = (family.key.components, target.locale) ↔
      elected.path.IsBare registry ∨ target.locale ≠ registry.defaultCode ∨
        ∀ name, family.key.fileName? = some name → ¬ registry.ShowsLocale name := by
  obtain ⟨listed, shown⟩ := Grouping.source_of_family member held
  obtain ⟨supported, -, placed⟩ := (mem_create_iff registry family elected target).mp created
  rw [placed]
  exact slot_destination_iff plain (documents _ listed) (isTrim_family_key documents member)
    (congrArg Prod.fst shown) supported

/-- A file to be created for a family of documents shows, when it is found, the family and the locale
that it was made for, except under a mask. -/
theorem readsBack_iff :
    (make registry family elected).ReadsBack registry target ↔
      ¬ (make registry family elected).IsMasked registry target := by
  show registry.slot target.path = (family.key.components, target.locale) ↔
    ¬ (¬ elected.path.IsBare registry ∧ target.locale = registry.defaultCode ∧
      ∃ name, family.key.fileName? = some name ∧ registry.ShowsLocale name)
  rw [slot_create_iff plain documents member held created, not_and_or, not_and_or, not_not]
  simp only [not_exists, not_and]

end Family

/-- The new English file of `docs/intro` is read as meant, that of `docs/zh` as a file of `docs`. -/
theorem readsBack_intro_not_zh :
    let plan (key source : String) : Plan := make .bilingual
      ⟨Path.ofText key, .ofList [("zh", Path.ofText source)]⟩ ⟨"zh", Path.ofText source⟩
    (plan "docs/intro" "docs/intro.zh.md").ReadsBack .bilingual ⟨"en", Path.ofText "docs/intro.md"⟩ ∧
      ¬ (plan "docs/zh" "docs/zh.zh.md").ReadsBack .bilingual ⟨"en", Path.ofText "docs/zh.md"⟩ := by
  intro plan
  have read (key source : String) (target : Target)
      (documents : ∀ path ∈ [Path.ofText source], path.IsDocument)
      (member : ⟨Path.ofText key, .ofList [("zh", Path.ofText source)]⟩ ∈
        (Grouping.of .bilingual [Path.ofText source]).families.families)
      (held : (Election.hold ⟨Path.ofText key, .ofList [("zh", Path.ofText source)]⟩ "en"
        .fullScan).source? = some ⟨"zh", Path.ofText source⟩)
      (created : target ∈ (plan key source).create) :=
    readsBack_iff (by decide) documents member held created
  exact ⟨(read _ _ _ (by decide) (by decide) (by decide) (by decide)).mpr (by decide),
    fun same => (read _ _ _ (by decide) (by decide) (by decide) (by decide)).mp same (by decide)⟩

end LocaleFamilies.Plan
