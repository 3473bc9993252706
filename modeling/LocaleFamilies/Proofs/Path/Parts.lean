import LocaleFamilies.Proofs.Path.Components
import Mathlib.Data.List.Basic

/-! The parts of a path by its components: the last name with its stem and extension, and the parent,
which has one component less and is spelled without fillers at its end. -/
namespace LocaleFamilies.Path

theorem cutAtLastDot_eq_none_iff (name : Bytes) : cutAtLastDot name = none ↔ Bytes.dot ∉ name := by
  induction name with
  | nil => simp [cutAtLastDot]
  | cons byte rest ih =>
    cases later : cutAtLastDot rest with
    | some cut =>
      have present : Bytes.dot ∈ rest := by
        by_contra absent
        rw [ih.mpr absent] at later
        cases later
      simp [cutAtLastDot, later, present]
    | none =>
      by_cases here : byte = Bytes.dot
      · simp [cutAtLastDot, later, here]
      · simp [cutAtLastDot, later, here, Ne.symm here, ih.mp later]

theorem cutAtLastDot_dot (before : Bytes) {after : Bytes} (free : Bytes.dot ∉ after) :
    cutAtLastDot (before ++ Bytes.dot :: after) = some (before, after) := by
  induction before with
  | nil => simp [cutAtLastDot, (cutAtLastDot_eq_none_iff after).mpr free]
  | cons byte rest ih => simp [cutAtLastDot, ih]

theorem cutAtLastDot_eq_some_iff (name before after : Bytes) :
    cutAtLastDot name = some (before, after) ↔
      name = before ++ Bytes.dot :: after ∧ Bytes.dot ∉ after := by
  constructor
  · intro found
    induction name generalizing before with
    | nil => cases found
    | cons byte rest ih =>
      cases later : cutAtLastDot rest with
      | some cut =>
        obtain ⟨start, ending⟩ := cut
        simp only [cutAtLastDot, later, Option.some.injEq, Prod.mk.injEq] at found
        obtain ⟨rfl, rfl⟩ := found
        obtain ⟨whole, free⟩ := ih start later
        exact ⟨by rw [whole]; rfl, free⟩
      | none =>
        simp only [cutAtLastDot, later] at found
        split at found
        · rename_i here
          simp only [Option.some.injEq, Prod.mk.injEq] at found
          obtain ⟨rfl, rfl⟩ := found
          exact ⟨by rw [here]; rfl, (cutAtLastDot_eq_none_iff rest).mp later⟩
        · cases found
  · rintro ⟨rfl, free⟩
    exact cutAtLastDot_dot before free

theorem splitName_dot {stem extension : Bytes} (some_byte : stem ≠ [])
    (free : Bytes.dot ∉ extension) :
    splitName (stem ++ Bytes.dot :: extension) = (stem, some extension) := by
  simp [splitName, cutAtLastDot_dot stem free, some_byte]

theorem splitName_eq_some_iff (name stem extension : Bytes) :
    splitName name = (stem, some extension) ↔
      name = stem ++ Bytes.dot :: extension ∧ stem ≠ [] ∧ Bytes.dot ∉ extension := by
  constructor
  · intro split_so
    unfold splitName at split_so
    split at split_so
    · rename_i before after found
      obtain ⟨whole, free⟩ := (cutAtLastDot_eq_some_iff _ _ _).mp found
      split at split_so
      · cases split_so
      · rename_i some_byte
        cases split_so
        exact ⟨whole, by simpa using some_byte, free⟩
    · cases split_so
  · rintro ⟨rfl, some_byte, free⟩
    exact splitName_dot some_byte free

theorem splitName_stem_ne_nil {name : Bytes} (some_byte : name ≠ []) : (splitName name).1 ≠ [] := by
  unfold splitName
  split
  · split
    · exact some_byte
    · rename_i kept
      simpa using kept
  · exact some_byte

theorem splitName_stem_starts (name : Bytes) : (splitName name).1 <+: name := by
  unfold splitName
  split
  · rename_i before after found
    split
    · exact List.prefix_rfl
    · exact ⟨_, ((cutAtLastDot_eq_some_iff _ _ _).mp found).1.symm⟩
  · exact List.prefix_rfl

theorem fileName?_eq_some_iff (path : Path) (name : Bytes) :
    path.fileName? = some name ↔ path.components = path.components.dropLast ++ [.name name] := by
  unfold fileName?
  constructor
  · intro found
    split at found
    · rename_i last
      cases found
      exact (List.dropLast_append_getLast? _ (by simpa using last)).symm
    · cases found
  · intro ends
    rw [ends]
    simp

theorem fileName?_of_components {path : Path} {directory : List Component} {name : Bytes}
    (ends : path.components = directory ++ [.name name]) : path.fileName? = some name := by
  rw [fileName?_eq_some_iff, ends]
  simp

theorem name_of_fileName? {path : Path} {name : Bytes} (named : path.fileName? = some name) :
    Bytes.slash ∉ name ∧ name ≠ [] ∧ name ≠ [Bytes.dot] ∧ name ≠ [Bytes.dot, Bytes.dot] := by
  have member : Component.name name ∈ path.components := by
    rw [(fileName?_eq_some_iff path name).mp named]
    simp
  exact name_of_mem_components member

theorem splitName_stem_of_fileName? {path : Path} {name : Bytes}
    (named : path.fileName? = some name) :
    (splitName name).1 ≠ [] ∧ Bytes.slash ∉ (splitName name).1 := by
  obtain ⟨unslashed, some_byte, -⟩ := name_of_fileName? named
  exact ⟨splitName_stem_ne_nil some_byte,
    fun member => unslashed ((splitName_stem_starts name).subset member)⟩

section Anatomy

/-- The cut of a path at its slashes: no stretch holds a slash, and the first one shows the lead. -/
structure Anatomy.IsSound (anatomy : Anatomy) : Prop where
  plain : ∀ part ∈ anatomy.body, Bytes.slash ∉ part
  bare : anatomy.lead = .bare → ∀ first ∈ anatomy.body.head?, first ≠ [] ∧ first ≠ [Bytes.dot]

theorem sound_anatomy (path : Path) : path.anatomy.IsSound := by
  have free := Separated.separator_not_mem Bytes.slash path.spelling
  simp only [Separated.parts, List.mem_cons, forall_eq_or_imp] at free
  unfold anatomy
  rcases cut : Separated.cut Bytes.slash path.spelling with ⟨first, body⟩
  rw [cut] at free
  cases first with
  | nil =>
    cases body with
    | nil => exact ⟨by simp, by simp⟩
    | cons next others => exact ⟨free.2, by simp⟩
  | cons byte rest =>
    by_cases dotted : byte :: rest = [Bytes.dot]
    · simp only [dotted, if_true]
      exact ⟨free.2, by simp⟩
    · simp only [dotted, if_false]
      exact ⟨by simpa using free, by simpa using dotted⟩

theorem components_toPath {anatomy : Anatomy} (sound : anatomy.IsSound) :
    anatomy.toPath.components = anatomy.components := by
  obtain ⟨lead, body⟩ := anatomy
  have uncut (parts : List Bytes) (some_part : parts ≠ [])
      (free : ∀ part ∈ parts, Bytes.slash ∉ part) :
      ((Separated.cut Bytes.slash (Separated.join Bytes.slash parts)).1 ::
        (Separated.cut Bytes.slash (Separated.join Bytes.slash parts)).2) = parts :=
    Separated.parts_join Bytes.slash some_part free
  cases lead with
  | bare =>
    cases body with
    | nil => rfl
    | cons first rest =>
      have cut := uncut (first :: rest) (by simp) sound.plain
      obtain ⟨some_byte, not_dot⟩ := sound.bare rfl first (by simp)
      simp only [List.cons.injEq] at cut
      simp only [components, anatomy, Anatomy.toPath]
      rw [← Prod.eta (Separated.cut _ _), cut.1, cut.2]
      simp [some_byte, not_dot]
  | root =>
    cases body with
    | nil => rfl
    | cons first rest =>
      have cut := uncut (first :: rest) (by simp) sound.plain
      simp only [components, anatomy, Anatomy.toPath, Separated.cut, if_true, cut]
  | current =>
    have cut := uncut ([Bytes.dot] :: body) (by simp)
      (by simpa [Bytes.dot, Bytes.slash] using sound.plain)
    simp only [List.cons.injEq] at cut
    simp only [components, anatomy, Anatomy.toPath]
    rw [← Prod.eta (Separated.cut _ _), cut.1, cut.2]
    simp

/-- Either only fillers are trimmed, or a stretch that counts is left at the end. -/
theorem trimEnd_cases (body : List Bytes) :
    (trimEnd body = [] ∧ body.filterMap component? = []) ∨
      ∃ before last, trimEnd body = before ++ [last] ∧ isFiller last = false ∧
        before ++ [last] <+: body ∧
        body.filterMap component? = (before ++ [last]).filterMap component? := by
  induction body with
  | nil => exact Or.inl ⟨rfl, rfl⟩
  | cons part rest ih =>
    rcases ih with ⟨all, none⟩ | ⟨before, last, kept, counts, start, same⟩
    · by_cases filler : isFiller part = true
      · refine Or.inl ⟨by simp [trimEnd, all, filler], ?_⟩
        rw [List.filterMap_cons_none ((component?_eq_none_iff part).mpr filler), none]
      · refine Or.inr ⟨[], part, by simp [trimEnd, all, filler], by simpa using filler, by simp, ?_⟩
        simp [List.filterMap_cons, none]
    · refine Or.inr ⟨part :: before, last, ?_, counts, by simpa using start, ?_⟩
      · simp only [trimEnd, kept]
        cases before <;> rfl
      · simp [List.filterMap_cons, same]

theorem isPrefix_trimEnd (body : List Bytes) : trimEnd body <+: body := by
  rcases trimEnd_cases body with ⟨all, -⟩ | ⟨before, last, kept, -, start, -⟩
  · rw [all]
    exact List.nil_prefix
  · rw [kept]
    exact start

theorem filterMap_trimEnd (body : List Bytes) :
    (trimEnd body).filterMap component? = body.filterMap component? := by
  rcases trimEnd_cases body with ⟨all, none⟩ | ⟨before, last, kept, -, -, same⟩
  · rw [all, none, List.filterMap_nil]
  · rw [kept, same]

private theorem isTrim_toPath {lead : Lead} {body : List Bytes}
    (sound : Anatomy.IsSound ⟨lead, body⟩)
    (trimmed : body = [] ∨ ∃ before last, body = before ++ [last] ∧ isFiller last = false) :
    (Anatomy.toPath ⟨lead, body⟩).IsTrim := by
  rcases trimmed with rfl | ⟨before, last, rfl, counts⟩
  · cases lead
    · exact Or.inl rfl
    · exact Or.inr (Or.inl rfl)
    · exact Or.inr (Or.inr (Or.inl rfl))
  · have plain : Bytes.slash ∉ last := sound.plain last (by simp)
    have some_byte : last ≠ [] := by
      rintro rfl
      cases counts
    have ends (parts : List Bytes) (some_part : parts ≠ []) (start : Bytes) :
        Path.EndsIn ⟨start ++ Separated.join Bytes.slash (parts ++ [last])⟩
          ⟨start ++ Separated.join Bytes.slash parts ++ [Bytes.slash]⟩ last := by
      refine ⟨Or.inr ⟨_, rfl⟩, plain, some_byte, ?_⟩
      simp [Separated.join_concat Bytes.slash some_part]
    refine Or.inr (Or.inr (Or.inr ?_))
    cases lead with
    | bare =>
      cases before with
      | nil => exact ⟨⟨[]⟩, last, ⟨Or.inl rfl, plain, some_byte, rfl⟩, counts⟩
      | cons first rest => exact ⟨_, last, ends (first :: rest) (by simp) [], counts⟩
    | root =>
      cases before with
      | nil => exact ⟨⟨[Bytes.slash]⟩, last, ⟨Or.inr ⟨[], rfl⟩, plain, some_byte, rfl⟩, counts⟩
      | cons first rest => exact ⟨_, last, ends (first :: rest) (by simp) [Bytes.slash], counts⟩
    | current => exact ⟨_, last, ends ([Bytes.dot] :: before) (by simp) [], counts⟩

theorem Anatomy.IsSound.start {lead : Lead} {body start : List Bytes}
    (sound : Anatomy.IsSound ⟨lead, body⟩) (begins : start <+: body) :
    Anatomy.IsSound ⟨lead, start⟩ := by
  refine ⟨fun part member => sound.plain part (begins.subset member), fun bare first member => ?_⟩
  cases start with
  | nil => cases member
  | cons head rest =>
    obtain ⟨more, rfl⟩ := begins
    exact sound.bare bare first member

/-- A path with a component behind its lead has a parent, with one component less. -/
theorem parent?_cases (path : Path) :
    (∃ lead : Lead, path.components = lead.components ∧ path.parent?.getD .empty = .empty) ∨
      ∃ directory, path.parent? = some directory ∧
        directory.components = path.components.dropLast ∧ directory.IsTrim := by
  have sound := sound_anatomy path
  rcases cut : path.anatomy with ⟨lead, body⟩
  have whole : path.components = lead.components ++ body.filterMap component? := by
    simp [components, cut, Anatomy.components]
  rw [cut] at sound
  rw [whole]
  rcases trimEnd_cases body with ⟨all, none⟩ | ⟨before, last, kept, counts, start, same⟩
  · refine Or.inl ⟨lead, by rw [none, List.append_nil], ?_⟩
    unfold parent?
    cases lead <;> simp [cut, all]
  · obtain ⟨component, counted⟩ : ∃ component, component? last = some component := by
      rw [← Option.ne_none_iff_exists', Ne, component?_eq_none_iff, counts]
      simp
    have shape : trimEnd before = [] ∨
        ∃ init final, trimEnd before = init ++ [final] ∧ isFiller final = false := by
      rcases trimEnd_cases before with ⟨all, -⟩ | ⟨init, final, kept, counts, -, -⟩
      · exact Or.inl all
      · exact Or.inr ⟨init, final, kept, counts⟩
    have begins : trimEnd before <+: body :=
      (isPrefix_trimEnd before).trans ((List.prefix_append before [last]).trans start)
    have sound_rest : Anatomy.IsSound ⟨lead, trimEnd before⟩ := sound.start begins
    refine Or.inr ⟨Anatomy.toPath ⟨lead, trimEnd before⟩, ?_, ?_, isTrim_toPath sound_rest shape⟩
    · unfold parent?
      simp [cut, kept]
    · rw [components_toPath sound_rest, same, List.filterMap_append, ← filterMap_trimEnd before]
      simp [Anatomy.components, counted, ← List.append_assoc]

theorem components_parent (path : Path) :
    (path.parent?.getD .empty).components = path.components.dropLast := by
  rcases path.parent?_cases with ⟨lead, alone, top⟩ | ⟨directory, found, above, -⟩
  · rw [top, alone]
    cases lead <;> rfl
  · rw [found, Option.getD_some, above]

/-- A path that ends in a name has a parent, with one component less. -/
theorem exists_parent {path : Path} {name : Bytes} (named : path.fileName? = some name) :
    ∃ directory, path.parent? = some directory ∧
      directory.components = path.components.dropLast ∧ directory.IsTrim := by
  refine path.parent?_cases.resolve_left ?_
  rintro ⟨lead, alone, -⟩
  have ends := (fileName?_eq_some_iff path name).mp named
  rw [alone] at ends
  cases lead <;> simp [Lead.components] at ends

end Anatomy

end LocaleFamilies.Path
