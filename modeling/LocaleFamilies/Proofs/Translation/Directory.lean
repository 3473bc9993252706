import LocaleFamilies.Proofs.Translation.Destination

/-! The directories of new files. Beside a source named after its locale a new file belongs directly below
the directory that the key names, and otherwise beside the key. A registry takes any text for a code, and a
slash in a code cuts the path that the code goes into. Without a slash the new file lies where it belongs;
with one it lies in the directory that the code names up to its last slash. -/
namespace LocaleFamilies

namespace Path

variable {path directory : Path}

/-- A path lies in a directory when that is its parent. -/
def LiesIn (path directory : Path) : Prop :=
  ∃ above ∈ path.parent?, above.same directory = true

instance (path directory : Path) : Decidable (path.LiesIn directory) :=
  inferInstanceAs (Decidable (∃ above ∈ path.parent?, above.same directory = true))

theorem LiesIn.components_dropLast (lies : path.LiesIn directory) :
    path.components.dropLast = directory.components := by
  obtain ⟨above, found, same⟩ := lies
  have parent := path.components_parent
  rw [Option.mem_def.mp found, Option.getD_some] at parent
  rw [← parent]
  exact eq_of_beq same

theorem liesIn_of_components {component : Component}
    (whole : path.components = directory.components ++ [component])
    (counts : component = .parent ∨ ∃ name, component = .name name) : path.LiesIn directory := by
  rcases path.parent?_cases with ⟨lead, alone, -⟩ | ⟨above, found, short, -⟩
  · have last := congrArg List.getLast? (alone.symm.trans whole)
    rcases counts with rfl | ⟨name, rfl⟩ <;> cases lead <;> simp [Lead.components] at last
  · refine ⟨above, found, ?_⟩
    rw [same, beq_iff_eq, short, whole, List.dropLast_concat]

theorem liesIn_append (opened : directory.IsOpen) {stretch : Bytes} (plain : Bytes.slash ∉ stretch)
    (counts : isFiller stretch = false) : LiesIn ⟨directory.spelling ++ stretch⟩ directory := by
  obtain ⟨component, found⟩ : ∃ component, component? stretch = some component := by
    rw [← Option.ne_none_iff_exists', Ne, component?_eq_none_iff, counts]
    simp
  have not_dot : stretch ≠ [Bytes.dot] := by
    rintro rfl
    cases counts
  apply liesIn_of_components _ (component?_counts found)
  rw [components_append opened plain, lengthen, if_neg fun both => not_dot both.2, found]
  rfl

theorem HasName.liesIn {stem extension : Bytes} (name : path.HasName stem extension)
    (beside : path.components.dropLast = directory.components) : path.LiesIn directory := by
  have whole := name.components_eq
  rw [beside] at whole
  exact liesIn_of_components whole (Or.inr ⟨_, rfl⟩)

theorem LiesIn.congr {other : Path} (lies : path.LiesIn directory)
    (same : directory.components = other.components) : path.LiesIn other := by
  obtain ⟨above, found, equal⟩ := lies
  exact ⟨above, found, by rwa [Path.same, ← same]⟩

/-- A spelling that goes on behind a relative start goes on behind the joined start. -/
theorem join_append (directory : Path) {start : Bytes} (some_byte : start ≠ []) (rest : Bytes) :
    directory.join ⟨start ++ rest⟩ = ⟨(directory.join ⟨start⟩).spelling ++ rest⟩ := by
  have lead : (Path.mk (start ++ rest)).isAbsolute = (Path.mk start).isAbsolute := by
    cases start with
    | nil => exact absurd rfl some_byte
    | cons byte more => rfl
  unfold join
  rw [lead]
  split
  · rfl
  · split <;> simp

theorem isOpen_join (directory : Path) (start : Bytes) :
    (directory.join ⟨start ++ [Bytes.slash]⟩).IsOpen := by
  refine Or.inr ?_
  unfold join
  split
  · exact ⟨start, rfl⟩
  · split
    · exact ⟨directory.spelling ++ start, by simp⟩
    · exact ⟨directory.spelling ++ Bytes.slash :: start, by simp⟩

end Path

namespace Plan

/-- Whether a new file lies where the family has its files. -/
def StaysHome (registry : Registry) (plan : Plan) (target : Target) : Prop :=
  if plan.source.path.IsBare registry then target.path.LiesIn plan.key
  else ∃ above ∈ plan.key.parent?, target.path.LiesIn above

instance (registry : Registry) (plan : Plan) (target : Target) :
    Decidable (plan.StaysHome registry target) :=
  inferInstanceAs (Decidable (if plan.source.path.IsBare registry then target.path.LiesIn plan.key
    else ∃ above ∈ plan.key.parent?, target.path.LiesIn above))

section Destination

variable {registry : Registry} {key source : Path} {stem extension : Bytes} {locale : Code}
  (name : source.HasName stem extension)

private theorem isFiller_ending (start extension : Bytes) :
    Path.isFiller (start ++ Bytes.dot :: extension) = true ↔ start = [] ∧ extension = [] := by
  cases start with
  | nil => simp [Path.isFiller]
  | cons byte rest => simp [Path.isFiller]

include name

/-- Without a slash in its code a new file beside a bare source lies in the directory that the key names,
unless it goes without a name altogether. -/
theorem destination_liesIn_key_iff (bare : source.IsBare registry)
    (unslashed : Bytes.slash ∉ Bytes.ofText locale) :
    (destination registry key source locale).LiesIn key ↔
      ¬ (locale = "" ∧ extension = [] ∧ key.spelling ≠ []) := by
  have free : Bytes.slash ∉ Bytes.ofText locale ++ Bytes.dot :: extension := by
    simp only [List.mem_append, List.mem_cons, not_or]
    exact ⟨unslashed, by decide, name.unslashed.2⟩
  have spelled : destination registry key source locale =
      ⟨key.opened.spelling ++ (Bytes.ofText locale ++ Bytes.dot :: extension)⟩ := by
    rw [destination, if_pos (isBare_iff.mpr bare), ending_eq name]
    exact Path.join_eq_opened key free
  rw [spelled]
  by_cases nameless : locale = "" ∧ extension = []
  · obtain ⟨rfl, rfl⟩ := nameless
    by_cases empty : key.spelling = []
    · obtain ⟨spelling⟩ := key
      subst empty
      exact iff_of_true (by decide) (by simp)
    · refine iff_of_false (fun lies => ?_) (by simp [empty])
      have some_component : key.components ≠ [] := (Path.components_eq_nil_iff key).not.mpr empty
      have whole : (Path.mk (key.opened.spelling ++ [Bytes.dot])).components = key.components := by
        rw [Path.components_append (Path.isOpen_opened key) (by decide), Path.components_opened,
          Path.lengthen, if_neg fun both => some_component both.1]
        simp
      have short := congrArg List.length (whole ▸ lies.components_dropLast)
      have size := List.length_pos_iff.mpr some_component
      rw [List.length_dropLast] at short
      omega
  · refine iff_of_true ?_ fun all => nameless ⟨all.1, all.2.1⟩
    have counts : Path.isFiller (Bytes.ofText locale ++ Bytes.dot :: extension) = false := by
      rw [← Bool.not_eq_true, isFiller_ending, Bytes.ofText_eq_nil_iff]
      exact nameless
    exact (Path.liesIn_append (Path.isOpen_opened key) free counts).congr (Path.components_opened key)

/-- Without a slash in its marker a new file beside another source lies beside the key. -/
theorem destination_liesIn_directory (not_bare : ¬ source.IsBare registry) {directory : Path}
    {stretch : Bytes} (ends : key.EndsIn directory stretch) (not_dot : stretch ≠ [Bytes.dot])
    (unslashed : locale = registry.defaultCode ∨ Bytes.slash ∉ Bytes.ofText locale) :
    (destination registry key source locale).LiesIn directory := by
  by_cases other : locale = registry.defaultCode
  · subst other
    obtain ⟨read, beside, -⟩ := destination_unmarked ends not_bare name fun both => not_dot both.1
    exact read.liesIn beside
  · obtain ⟨read, beside⟩ := hasName_destination_marked ends not_bare name other
      (unslashed.resolve_left other)
    exact read.liesIn beside

section Cut

variable {start file : Bytes} (unslashed : Bytes.slash ∉ file)
  (named : ¬ (file = [] ∧ extension = []))

include unslashed named

private theorem counts_ending : Bytes.slash ∉ file ++ Bytes.dot :: extension ∧
    Path.isFiller (file ++ Bytes.dot :: extension) = false := by
  constructor
  · simp only [List.mem_append, List.mem_cons, not_or]
    exact ⟨unslashed, by decide, name.unslashed.2⟩
  · rw [← Bool.not_eq_true, isFiller_ending]
    exact named

variable (cut : Bytes.ofText locale = start ++ Bytes.slash :: file)

include cut

/-- What a code says before its last slash is a directory below the one that the key names. -/
theorem destination_liesIn_join (bare : source.IsBare registry) :
    (destination registry key source locale).LiesIn (key.join ⟨start ++ [Bytes.slash]⟩) := by
  obtain ⟨free, counts⟩ := counts_ending name unslashed named
  have spelled : destination registry key source locale =
      ⟨(key.join ⟨start ++ [Bytes.slash]⟩).spelling ++ (file ++ Bytes.dot :: extension)⟩ := by
    rw [destination, if_pos (isBare_iff.mpr bare), ending_eq name, cut,
      ← Path.join_append key (by simp)]
    simp
  rw [spelled]
  exact Path.liesIn_append (Path.isOpen_join key start) free counts

/-- Behind a key, what a code says before its last slash goes on in the last name of the key. -/
theorem destination_liesIn_beyond (not_bare : ¬ source.IsBare registry)
    (other : locale ≠ registry.defaultCode) :
    (destination registry key source locale).LiesIn
      ⟨key.spelling ++ Bytes.dot :: start ++ [Bytes.slash]⟩ := by
  obtain ⟨free, counts⟩ := counts_ending name unslashed named
  have spelled : destination registry key source locale =
      ⟨(key.spelling ++ Bytes.dot :: start ++ [Bytes.slash]) ++ (file ++ Bytes.dot :: extension)⟩ := by
    rw [destination, if_neg fun bare => not_bare (isBare_iff.mp bare), if_neg other, ending_eq name,
      cut]
    simp
  have opened : (Path.mk (key.spelling ++ Bytes.dot :: start ++ [Bytes.slash])).IsOpen :=
    Or.inr ⟨_, rfl⟩
  rw [spelled]
  exact Path.liesIn_append opened free counts

end Cut

end Destination

section Family

variable {registry : Registry} {paths : List Path} {family : Family} {changes : ChangeList}
  {elected : Source} {target : Target}

theorem slash_not_mem_iff (code : Code) : Bytes.slash ∉ Bytes.ofText code ↔ '/' ∉ code.toList :=
  (Bytes.mem_ofText_iff code '/' (by decide) (by decide)).not

/-- Whatever texts a registry takes for codes, a file to be created for a family of documents lies in the
directory that the key names, beside a source named after its locale, and else beside the key, if its code
has no slash or does not go into its name. The only exception is the file without a name that an empty code
and an empty extension make. A code with a slash takes the file to the directory that it names up to its
last slash. -/
theorem staysHome_without_slash (documents : ∀ path ∈ paths, path.IsDocument)
    (member : family ∈ (Grouping.of registry paths).families.families)
    (held : (Election.hold family registry.defaultCode changes).source? = some elected)
    (created : target ∈ (make registry family elected).create) :
    (('/' ∉ target.locale.toList ∨
        ¬ elected.path.IsBare registry ∧ target.locale = registry.defaultCode) →
      ((make registry family elected).StaysHome registry target ↔
        ¬ (elected.path.IsBare registry ∧ target.locale = "" ∧ elected.path.extension? = some [] ∧
          family.key.spelling ≠ []))) ∧
      ∀ start file : String, target.locale = start ++ "/" ++ file → '/' ∉ file.toList →
        ¬ (file = "" ∧ elected.path.extension? = some []) →
        (elected.path.IsBare registry →
          target.path.LiesIn (family.key.join (Path.ofText (start ++ "/")))) ∧
        (¬ elected.path.IsBare registry → target.locale ≠ registry.defaultCode →
          target.path.LiesIn ⟨family.key.spelling ++ Bytes.ofText ("." ++ start ++ "/")⟩) := by
  obtain ⟨listed, shown⟩ := Grouping.source_of_family member held
  have document := documents _ listed
  have trim := isTrim_family_key documents member
  obtain ⟨-, -, placed⟩ := (mem_create_iff registry family elected target).mp created
  obtain ⟨stem, extension, name⟩ := Path.exists_hasName document.extension
  rw [name.extension?_eq, Option.some.injEq]
  constructor
  · intro unslashed
    show (if elected.path.IsBare registry then target.path.LiesIn family.key
      else ∃ above ∈ family.key.parent?, target.path.LiesIn above) ↔ _
    rw [placed]
    by_cases bare : elected.path.IsBare registry
    · have free := unslashed.resolve_right fun both => both.1 bare
      rw [← slash_not_mem_iff] at free
      rw [if_pos bare, destination_liesIn_key_iff name bare free]
      simp [bare]
    · obtain ⟨directory, stretch, ends, shows, whole, -⟩ :=
        exists_key_directory document trim (congrArg Prod.fst shown) bare
      have free : target.locale = registry.defaultCode ∨ Bytes.slash ∉ Bytes.ofText target.locale := by
        rw [slash_not_mem_iff]
        exact unslashed.symm.imp_left And.right
      have lies := destination_liesIn_directory name bare ends (Path.name_of_fileName? shows).2.2.1 free
      obtain ⟨above, found, short, -⟩ := Path.exists_parent shows
      rw [whole, List.dropLast_concat] at short
      rw [if_neg bare]
      exact iff_of_true ⟨above, found, lies.congr short.symm⟩ fun all => bare all.1
  · intro start file cut unslashed named
    rw [← slash_not_mem_iff] at unslashed
    rw [← Bytes.ofText_eq_nil_iff] at named
    have bytes : Bytes.ofText target.locale =
        Bytes.ofText start ++ Bytes.slash :: Bytes.ofText file := by
      rw [cut, Bytes.ofText_append, Bytes.ofText_append, List.append_assoc]
      rfl
    rw [placed]
    constructor
    · intro bare
      rw [Path.ofText, Bytes.ofText_append]
      exact destination_liesIn_join name unslashed named bytes bare
    · intro not_bare other
      rw [Bytes.ofText_append, Bytes.ofText_append, ← List.append_assoc]
      exact destination_liesIn_beyond name unslashed named bytes not_bare other

/-- A code that starts with a step to the parent. -/
def outward : Registry :=
  ⟨"en", .ofList [("../zh", "Chinese"), ("en", "English"), ("ko", "Korean")], by decide⟩

/-- The registry is accepted, and the Chinese file beside `messages/en.json` goes out of `messages`. -/
theorem strays_outward :
    let paths := [Path.ofText "messages/en.json"]
    Registry.of "en" outward.names = .ok outward ∧ (∀ path ∈ paths, path.IsDocument) ∧
      ∃ plan ∈ (Grouping.of outward paths).plans outward .fullScan, ∃ target ∈ plan.create,
        plan.source.path.IsBare outward ∧ plan.key = Path.ofText "messages" ∧
          target.path = Path.ofText "messages/../zh.json" ∧ ¬ plan.StaysHome outward target := by
  intro paths
  exact ⟨rfl, by decide, by decide⟩

/-- Beside `messages/en.json` the Korean file stays in `messages`, and the Chinese one lies in its parent. -/
theorem staysHome_without_slash_korean :
    let elected : Source := ⟨"en", Path.ofText "messages/en.json"⟩
    let family : Family := ⟨Path.ofText "messages", .ofList [("en", elected.path)]⟩
    (make outward family elected).StaysHome outward ⟨"ko", Path.ofText "messages/ko.json"⟩ ∧
      (Path.ofText "messages/../zh.json").LiesIn (Path.ofText "messages/../") := by
  intro elected family
  have documents : ∀ path ∈ [elected.path], path.IsDocument := by decide
  have member : family ∈ (Grouping.of outward [elected.path]).families.families := by decide
  have held : (Election.hold family outward.defaultCode .fullScan).source? = some elected := by decide
  have korean : ⟨"ko", Path.ofText "messages/ko.json"⟩ ∈ (make outward family elected).create := by
    decide
  have chinese : ⟨"../zh", Path.ofText "messages/../zh.json"⟩ ∈
      (make outward family elected).create := by
    decide
  have home := (staysHome_without_slash documents member held korean).1 (Or.inl (by decide))
  have away := (staysHome_without_slash documents member held chinese).2 ".." "zh" rfl (by decide)
    (by decide)
  exact ⟨home.mpr (by decide), away.1 (by decide)⟩

end Family

end Plan

end LocaleFamilies
