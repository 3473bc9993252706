import LocaleFamilies.Proofs.Family.Accounting

/-! Files told apart by their places. The place of a file shows its directory and its stem, in a way that
depends on the form of its name only; with the extension the whole path is known. So two files collide
only if their names differ in form or in extension. -/
namespace LocaleFamilies

namespace Path

/-- A path that ends in a name, which does not start with two dots. -/
structure IsNamed (path : Path) : Prop where
  named : path.fileName?.isSome = true
  undotted : ∀ name, path.fileName? = some name → ¬ [Bytes.dot, Bytes.dot] <+: name

instance (path : Path) : Decidable path.IsNamed :=
  decidable_of_iff
    (path.fileName?.isSome = true ∧ ∀ name ∈ path.fileName?, ¬ [Bytes.dot, Bytes.dot] <+: name)
    ⟨fun both => ⟨both.1, both.2⟩, fun named => ⟨named.named, named.undotted⟩⟩

theorem stem_of_splitName_none {name stem : Bytes} (whole : splitName name = (stem, none)) :
    stem = name := by
  unfold splitName at whole
  split at whole
  · split at whole <;> cases whole
    rfl
  · cases whole
    rfl

/-- A name is known by its stem and its extension. -/
theorem splitName_injective : Function.Injective splitName := by
  intro name other same
  cases parts : splitName other with
  | mk stem extension =>
    rw [parts] at same
    cases extension with
    | none => rw [← stem_of_splitName_none same, ← stem_of_splitName_none parts]
    | some extension =>
      rw [((splitName_eq_some_iff _ _ _).mp same).1, ((splitName_eq_some_iff _ _ _).mp parts).1]

end Path

/-- What a place shows of a file: the directory that the file lies in, and the stem of its name. -/
inductive Placement.Shows : Placement → List Component → Bytes → Prop
  | dotted {key : Path} {locale : Code} {directory : List Component} {before : Bytes}
    (keyed : key.components = directory ++ [.name before]) :
    Shows ⟨key, locale, .dotted⟩ directory (before ++ Bytes.dot :: Bytes.ofText locale)
  | bare {key : Path} {locale : Code} {directory : List Component}
    (keyed : key.components = directory) :
    Shows ⟨key, locale, .bare⟩ directory (Bytes.ofText locale)
  | unmarked {key : Path} {locale : Code} {directory : List Component} {stem : Bytes}
    (keyed : key.components = directory ++ [.name stem]) :
    Shows ⟨key, locale, .unmarked⟩ directory stem

/-- No place shows two files in one form. -/
theorem Placement.Shows.unique {first second : Placement} {directory directory' : List Component}
    {stem stem' : Bytes} (shows_first : first.Shows directory stem)
    (shows_second : second.Shows directory' stem')
    (key : first.key.components = second.key.components) (locale : first.locale = second.locale)
    (form : first.form = second.form) : directory = directory' ∧ stem = stem' := by
  cases shows_first with
  | dotted keyed =>
    cases shows_second with
    | dotted keyed' =>
      obtain ⟨above, last⟩ := List.append_inj' (keyed.symm.trans (key.trans keyed')) rfl
      cases last
      obtain rfl : _ = _ := locale
      exact ⟨above, rfl⟩
    | bare => cases form
    | unmarked => cases form
  | bare keyed =>
    cases shows_second with
    | dotted => cases form
    | bare keyed' => exact ⟨keyed.symm.trans (key.trans keyed'), congrArg Bytes.ofText locale⟩
    | unmarked => cases form
  | unmarked keyed =>
    cases shows_second with
    | dotted => cases form
    | bare => cases form
    | unmarked keyed' =>
      obtain ⟨above, last⟩ := List.append_inj' (keyed.symm.trans (key.trans keyed')) rfl
      cases last
      exact ⟨above, rfl⟩

namespace Registry

variable (registry : Registry)

private theorem ne_dots_of_dotted {name start : Bytes}
    (undotted : ¬ [Bytes.dot, Bytes.dot] <+: name) (starts : start ++ [Bytes.dot] <+: name) :
    start ≠ [Bytes.dot] ∧ start ≠ [Bytes.dot, Bytes.dot] := by
  constructor
  · rintro rfl
    exact undotted starts
  · rintro rfl
    exact undotted ((List.prefix_append _ _).trans starts)

theorem shows_place {path : Path} {name : Bytes} (named : path.fileName? = some name)
    (undotted : ¬ [Bytes.dot, Bytes.dot] <+: name) :
    (registry.place path).Shows path.components.dropLast (Path.splitName name).1 := by
  obtain ⟨directory, above, -, placed⟩ := registry.exists_placeIn named
  obtain ⟨some_byte, unslashed⟩ := Path.splitName_stem_of_fileName? named
  cases parts : Path.splitName name with
  | mk stem extension =>
    rw [parts] at placed some_byte unslashed
    -- What stands before the marker or the extension is a name of its own.
    have keyed {start : Bytes} (some_byte : start ≠ []) (unslashed : Bytes.slash ∉ start)
        (own : start ≠ [Bytes.dot] ∧ start ≠ [Bytes.dot, Bytes.dot]) :
        (directory.join ⟨start⟩).components = path.components.dropLast ++ [.name start] := by
      rw [Path.components_join directory some_byte unslashed, above,
        Path.lengthen_name some_byte own.1 own.2]
    have begins : stem <+: name := by
      have starts := Path.splitName_stem_starts name
      rwa [parts] at starts
    rw [placed, placeIn]
    split
    · rename_i before code found
      obtain ⟨-, some_start, rfl⟩ := marker?_some unslashed found
      have dotted : before ++ [Bytes.dot] <+: name := by
        refine List.IsPrefix.trans ?_ begins
        exact ⟨Bytes.ofText code, by simp⟩
      have apart : Bytes.slash ∉ before := fun member => unslashed (List.mem_append_left _ member)
      exact .dotted (keyed some_start apart (ne_dots_of_dotted undotted dotted))
    · split
      · rename_i code found
        obtain ⟨rfl, -⟩ := (registry.code?_eq_some_iff _ _).mp found
        exact .bare above
      · refine .unmarked (keyed some_byte unslashed ?_)
        cases extension with
        | none =>
          rw [Path.stem_of_splitName_none parts]
          exact (Path.name_of_fileName? named).2.2
        | some extension =>
          refine ne_dots_of_dotted undotted ⟨extension, ?_⟩
          rw [((Path.splitName_eq_some_iff _ _ _).mp parts).1, List.append_assoc]
          rfl

/-- Files with one place and one extension are the same. -/
theorem components_eq_of_place {first second : Path} (named : first.IsNamed) (named' : second.IsNamed)
    (slot : registry.slot first = registry.slot second)
    (form : (registry.place first).form = (registry.place second).form)
    (extension : first.extension? = second.extension?) : first.components = second.components := by
  obtain ⟨name, found⟩ := Option.isSome_iff_exists.mp named.named
  obtain ⟨name', found'⟩ := Option.isSome_iff_exists.mp named'.named
  have shows_first := registry.shows_place found (named.undotted _ found)
  have shows_second := registry.shows_place found' (named'.undotted _ found')
  obtain ⟨directory, stem⟩ := shows_first.unique shows_second (congrArg Prod.fst slot)
    (congrArg Prod.snd slot) form
  rw [Path.extension?, Path.extension?, found, found', Option.bind_some, Option.bind_some] at extension
  have whole : name = name' := Path.splitName_injective (Prod.ext stem extension)
  rw [(Path.fileName?_eq_some_iff _ _).mp found, (Path.fileName?_eq_some_iff _ _).mp found', directory,
    whole]

end Registry

namespace Grouping

/-- The files of a collision are among those that were found, and belong in its slot. -/
theorem slot_of_collision {registry : Registry} {paths : List Path} {collision : Collision}
    (recorded : collision ∈ (of registry paths).collisions) :
    (collision.kept ∈ paths ∧ registry.slot collision.kept = collision.slot) ∧
      collision.displaced ∈ paths ∧ registry.slot collision.displaced = collision.slot := by
  have here : collision ∈ (of registry paths).collisionsIn collision.slot :=
    List.mem_filter.mpr ⟨recorded, decide_eq_true rfl⟩
  have succession := isSuccession_collisionsIn registry paths collision.slot
  have candidate {path : Path} (member : path ∈ candidates registry paths collision.slot) :
      path ∈ paths ∧ registry.slot path = collision.slot := by
    obtain ⟨found, slot⟩ := List.mem_filter.mp member
    exact ⟨found, of_decide_eq_true slot⟩
  have kept := List.mem_map_of_mem (f := (·.kept)) here
  have displaced := List.mem_map_of_mem (f := (·.displaced)) here
  rw [succession.kept] at kept
  rw [succession.displaced] at displaced
  exact ⟨candidate (List.mem_of_mem_tail kept), candidate (List.dropLast_subset _ displaced)⟩

/-- A file whose name does not start with two dots is known by its key, its locale, the form of its name
and its extension. So a collision of two such files is one of different forms or extensions. -/
theorem collisions_differ_in_form_or_extension (registry : Registry) :
    (∀ first second : Path, first.IsNamed → second.IsNamed →
      (registry.place first).key.same (registry.place second).key = true →
      (registry.place first).locale = (registry.place second).locale →
      (registry.place first).form = (registry.place second).form →
      first.extension? = second.extension? → first.same second = true) ∧
    ∀ paths : List Path, (∀ path ∈ paths, path.IsNamed) →
      ∀ collision ∈ (of registry paths).collisions,
        collision.kept.same collision.displaced = false →
          (registry.place collision.kept).form ≠ (registry.place collision.displaced).form ∨
            collision.kept.extension? ≠ collision.displaced.extension? := by
  constructor
  · intro first second named named' key locale form extension
    have slot : registry.slot first = registry.slot second := Prod.ext (eq_of_beq key) locale
    exact beq_iff_eq.mpr (registry.components_eq_of_place named named' slot form extension)
  · intro paths named collision recorded different
    obtain ⟨⟨kept, slot⟩, displaced, slot'⟩ := slot_of_collision recorded
    by_contra alike
    simp only [not_or, not_not] at alike
    have same := registry.components_eq_of_place (named _ kept) (named _ displaced)
      (slot.trans slot'.symm) alike.1 alike.2
    exact ne_of_beq_false different same

/-- Two spellings of one path are placed alike and are the same path. An English file that collides with one
of another form, and then with one of another extension, has a name of its own each time. -/
theorem collisions_differ_in_form_or_extension_spellings :
    let first : Path := ⟨Bytes.ofText "docs/./.g" ++ [0xff] ++ Bytes.ofText "..zh.md"⟩
    let second : Path := ⟨Bytes.ofText "docs//.g" ++ [0xff] ++ Bytes.ofText "..zh.md"⟩
    let paths := ["docs/intro.md", "docs/intro.en.md", "docs/intro.en.mdx"].map Path.ofText
    let collisions := (of .bilingual paths).collisions
    first.IsNamed ∧ second.IsNamed ∧ (Registry.bilingual.place first).form = .dotted ∧
      first ≠ second ∧ first.same second = true ∧ (∀ path ∈ paths, path.IsNamed) ∧
      collisions.length = 2 ∧ ∀ collision ∈ collisions,
        (Registry.bilingual.place collision.kept).form ≠
            (Registry.bilingual.place collision.displaced).form ∨
          collision.kept.extension? ≠ collision.displaced.extension? := by
  intro first second paths collisions
  have named : first.IsNamed := by decide
  have named' : second.IsNamed := by decide
  have all_named : ∀ path ∈ paths, path.IsNamed := by decide
  obtain ⟨known, differ⟩ := collisions_differ_in_form_or_extension .bilingual
  refine ⟨named, named', by decide, by decide,
    known first second named named' (by decide) (by decide) (by decide) (by decide), all_named,
    by decide, fun collision recorded => ?_⟩
  have different : ∀ collision ∈ collisions, collision.kept.same collision.displaced = false := by
    decide
  exact differ paths all_named collision recorded (different collision recorded)

end Grouping

end LocaleFamilies
