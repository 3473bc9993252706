import LocaleFamilies.Proofs.Translation.Destination

/-! Writes of one run. Every file to be written shows the slot that it is written for, by its name or,
when the name has no extension, by what stands before it; only a creation may go astray. So no two
writes hit the same path, and none hits a source, unless one of them is such a creation. -/
namespace LocaleFamilies

namespace Plan

/-- A creation for another locale than the default one at the root itself, which turns the marker
into the start of a hidden name. -/
def IsUprooted (registry : Registry) (plan : Plan) (target : Target) : Prop :=
  ¬ plan.source.path.IsBare registry ∧ target.locale ≠ registry.defaultCode ∧
    plan.key.spelling = [Bytes.slash]

/-- A creation whose name may belong to another family or to none. -/
def IsStray (registry : Registry) (plan : Plan) (target : Target) : Prop :=
  target ∈ plan.create ∧ (plan.IsMasked registry target ∨ plan.IsUprooted registry target)

end Plan

namespace Registry

/-- The family of the files whose names have no extension: the directory, or the root alone. -/
private def nameless : List Component → List Component
  | [.root] => [.root]
  | components => Path.lengthen components.dropLast [Bytes.dot]

private theorem nameless_parent (directory : List Component) :
    nameless (directory ++ [.parent]) = Path.lengthen directory [Bytes.dot] := by
  unfold nameless
  split
  · rename_i same
    simp [List.append_eq_singleton_iff] at same
  · rw [List.dropLast_concat]

/-- The slot that a file to be written shows, also when its name has no extension. -/
def shownSlot (registry : Registry) (path : Path) : Slot :=
  if path.extension?.isSome then registry.slot path
  else (nameless path.components, registry.defaultCode)

variable {registry : Registry}

theorem shownSlot_of_extension {path : Path} (extended : path.extension?.isSome = true) :
    registry.shownSlot path = registry.slot path := by
  rw [shownSlot, if_pos extended]

theorem shownSlot_of_hasName {path : Path} {stem extension : Bytes}
    (name : path.HasName stem extension) : registry.shownSlot path = registry.slot path :=
  shownSlot_of_extension (by rw [name.extension?_eq]; rfl)

theorem shownSlot_congr {first second : Path} (same : first.components = second.components) :
    registry.shownSlot first = registry.shownSlot second := by
  have named : first.fileName? = second.fileName? := by
    unfold Path.fileName?
    rw [same]
  have extended : first.extension? = second.extension? := by
    unfold Path.extension?
    rw [named]
  unfold shownSlot
  rw [← extended, same]
  split
  · rename_i some_extension
    obtain ⟨stem, extension, name⟩ := Path.exists_hasName some_extension
    rw [registry.slot_congr name.named same]
  · rfl

theorem not_dots_of_showsLocale (plain : registry.HasPlainCodes) {stem : Bytes}
    (shown : registry.ShowsLocale stem) : stem ≠ [Bytes.dot] ∧ stem ≠ [Bytes.dot, Bytes.dot] := by
  obtain ⟨code, supported, rest⟩ := shown
  obtain ⟨byte, member⟩ := List.exists_mem_of_ne_nil _ (plain.bytes_ne_nil supported)
  have inside : byte ∈ stem := by
    rcases rest with rfl | ⟨before, -, rfl⟩
    · exact member
    · simp [member]
  have other : byte ≠ Bytes.dot := fun same => plain.dot_not_mem supported (same ▸ member)
  constructor
  · rintro rfl
    exact other (by simpa using inside)
  · rintro rfl
    exact other (by simpa using inside)

end Registry

namespace Plan

section Creation

variable {registry : Registry} {source key : Path} {stem extension : Bytes}
  (name : source.HasName stem extension) (not_bare : ¬ source.IsBare registry)

include name not_bare

private theorem destination_default :
    destination registry key source registry.defaultCode =
      ⟨key.spelling ++ Bytes.dot :: extension⟩ := by
  rw [destination, if_neg (fun bare => not_bare (isBare_iff.mp bare)), if_pos rfl, ending,
    name.extension?_eq]

private theorem shownSlot_root (root : key.spelling = [Bytes.slash]) :
    registry.shownSlot (destination registry key source registry.defaultCode) =
      ([.root], registry.defaultCode) := by
  have opened : Path.IsOpen ⟨[Bytes.slash]⟩ := Or.inr ⟨[], rfl⟩
  have plain : Bytes.slash ∉ Bytes.dot :: extension := by
    simp only [List.mem_cons, not_or]
    exact ⟨by decide, name.unslashed.2⟩
  have whole : (destination registry key source registry.defaultCode).components =
      [.root] ++ (Path.component? (Bytes.dot :: extension)).toList := by
    rw [destination_default name not_bare, root, Path.components_append opened plain]
    exact if_neg fun both => List.cons_ne_nil _ _ both.1
  by_cases none : extension = []
  · subst none
    have alone : (destination registry key source registry.defaultCode).components = [.root] := whole
    simp [Registry.shownSlot, Path.extension?, Path.fileName?, alone, Registry.nameless]
  · have not_dots : Bytes.dot :: extension ≠ [Bytes.dot, Bytes.dot] := fun dots =>
      name.undotted (by rw [(List.cons.inj dots).2]; exact List.mem_singleton_self _)
    rw [Path.component?_name (List.cons_ne_nil _ _) (by simpa using none) not_dots] at whole
    have hidden : Path.splitName (Bytes.dot :: extension) = (Bytes.dot :: extension, Option.none) := by
      have cut := Path.cutAtLastDot_dot [] name.undotted
      rw [List.nil_append] at cut
      simp [Path.splitName, cut]
    rw [Registry.shownSlot, Path.extension?, Path.fileName?_of_components whole, Option.bind_some,
      hidden, whole]
    rfl

private theorem shownSlot_dots {directory : Path} (ends : key.EndsIn directory [Bytes.dot])
    (none : extension = []) :
    registry.shownSlot (destination registry key source registry.defaultCode) =
      (key.components, registry.defaultCode) := by
  subst none
  have whole : (destination registry key source registry.defaultCode).components =
      directory.components ++ [.parent] := by
    rw [destination_default name not_bare, ends.spelled, List.append_assoc,
      Path.components_append ends.opened (by decide)]
    exact if_neg fun both => absurd both.2 (by decide)
  have unnamed : (destination registry key source registry.defaultCode).fileName? = Option.none := by
    simp [Path.fileName?, whole]
  rw [Registry.shownSlot, Path.extension?, unnamed, Option.bind_none, if_neg (by simp), whole,
    Registry.nameless_parent, ends.components]

/-- The new file of the default locale shows the key as a whole, if its last stretch shows no other
locale. -/
private theorem shownSlot_unmarked {directory : Path} {stretch : Bytes}
    (ends : key.EndsIn directory stretch) (shows_none : ¬ registry.ShowsLocale stretch) :
    registry.shownSlot (destination registry key source registry.defaultCode) =
      (key.components, registry.defaultCode) := by
  by_cases dots : stretch = [Bytes.dot] ∧ extension = []
  · obtain ⟨rfl, none⟩ := dots
    exact shownSlot_dots name not_bare ends none
  · obtain ⟨name', -, read⟩ := destination_unmarked ends not_bare name dots
    rw [Registry.shownSlot_of_hasName name', read, Registry.slotIn_unmarked _ ends.plain shows_none,
      ends.components]

end Creation

section Written

variable {registry : Registry} (plain : registry.HasPlainCodes)

include plain

/-- A new file shows what it is made for, unless the last name of the key shows a locale in place of
the default one, or the key is the root and takes a marker. -/
theorem shownSlot_destination {source key : Path} {locale : Code} {stem extension : Bytes}
    (name : source.HasName stem extension) (supported : locale ∈ registry.codes)
    (tidy : key.IsTidy) (keyed : (registry.slot source).1 = key.components)
    (shows_none : ¬ source.IsBare registry → locale = registry.defaultCode →
      ∀ last, key.fileName? = some last → ¬ registry.ShowsLocale last)
    (rooted : ¬ source.IsBare registry → locale ≠ registry.defaultCode →
      key.spelling ≠ [Bytes.slash]) :
    registry.shownSlot (destination registry key source locale) = (key.components, locale) := by
  by_cases bare : source.IsBare registry
  · obtain ⟨name', -, read⟩ := destination_bare plain name bare supported
    rw [Registry.shownSlot_of_hasName name', read]
  obtain ⟨start, -, some_byte, -, -, counted⟩ := exists_key_stretch name bare
  rw [keyed] at counted
  rcases tidy with empty | root | ⟨directory, stretch, ends⟩
  · rw [(Path.components_eq_nil_iff _).mpr empty] at counted
    exact absurd counted.symm (Path.lengthen_ne_nil some_byte)
  · by_cases other : locale = registry.defaultCode
    · rw [other, shownSlot_root name bare root, show key = ⟨[Bytes.slash]⟩ from congrArg Path.mk root]
      rfl
    · exact absurd root (rooted bare other)
  · by_cases other : locale = registry.defaultCode
    · rw [other, shownSlot_unmarked name bare ends]
      intro shown
      obtain ⟨not_dot, not_dots⟩ := Registry.not_dots_of_showsLocale plain shown
      have last : key.components = directory.components ++ [.name stretch] := by
        rw [ends.components, Path.lengthen_name ends.some_byte not_dot not_dots]
      exact shows_none bare other stretch (Path.fileName?_of_components last) shown
    · obtain ⟨name', -, read⟩ := destination_marked plain ends bare name supported other
      rw [Registry.shownSlot_of_hasName name', read]

variable {paths : List Path} {changes : ChangeList} {plan : Plan} {target : Target}
  (extended : ∀ path ∈ paths, path.extension?.isSome = true)
  (planned : plan ∈ (Grouping.of registry paths).plans registry changes)

include extended planned

/-- Every file to be written shows the slot that it is written for, unless it goes astray. -/
theorem slotOf_eq_shownSlot (member : target ∈ plan.targets)
    (steady : ¬ plan.IsStray registry target) :
    plan.slotOf target = registry.shownSlot target.path := by
  obtain ⟨family, source, found, elected, rfl⟩ := Grouping.exists_family_of_mem_plans planned
  rcases List.mem_append.mp member with created | updated
  · obtain ⟨listed, shown⟩ := Grouping.source_of_family
      (Grouping.mem_families_of_get? registry paths found) elected
    obtain ⟨-, first, listed', keyed⟩ := Grouping.key_of_get? registry paths found
    obtain ⟨stem, extension, name⟩ := Path.exists_hasName (extended _ listed)
    obtain ⟨supported, -, placed⟩ := (mem_create_iff registry family source target).mp created
    have tidy : family.key.IsTidy := by
      rw [← keyed]
      exact isTidy_key (extended first listed')
    rw [placed, shownSlot_destination plain name supported tidy (congrArg Prod.fst shown)]
    · rfl
    · exact fun bare default last named shows =>
        steady ⟨created, Or.inl ⟨bare, default, last, named, shows⟩⟩
    · exact fun bare other root => steady ⟨created, Or.inr ⟨bare, other, root⟩⟩
  · have held := ((mem_update_iff registry family source target).mp updated).2.1
    rw [Grouping.get?_family registry paths found] at held
    obtain ⟨listed, shown⟩ := Grouping.mem_of_member? registry paths held
    rw [Registry.shownSlot_of_extension (extended _ listed), shown]
    rfl

end Written

end Plan

namespace Grouping

def writes (grouping : Grouping) (registry : Registry) (changes : ChangeList) :
    List (Plan × Target) :=
  (grouping.plans registry changes).flatMap fun plan =>
    plan.targets.map fun target => (plan, target)

variable {registry : Registry} {paths : List Path} {changes : ChangeList}

theorem mem_writes_iff (grouping : Grouping) (write : Plan × Target) :
    write ∈ grouping.writes registry changes ↔
      write.1 ∈ grouping.plans registry changes ∧ write.2 ∈ write.1.targets := by
  simp only [writes, List.mem_flatMap, List.mem_map]
  constructor
  · rintro ⟨plan, planned, target, member, rfl⟩
    exact ⟨planned, member⟩
  · rintro ⟨planned, member⟩
    exact ⟨write.1, planned, write.2, member, rfl⟩

/-- Two writes of one run are to different paths, and none is to a source, unless a creation goes
astray. -/
theorem writes_apart (plain : registry.HasPlainCodes)
    (extended : ∀ path ∈ paths, path.extension?.isSome = true) :
    ((of registry paths).writes registry changes).Pairwise (fun first second =>
        first.2.path.same second.2.path = true →
          first.1.IsStray registry first.2 ∨ second.1.IsStray registry second.2) ∧
      ∀ write ∈ (of registry paths).writes registry changes,
        ∀ plan ∈ (of registry paths).plans registry changes,
          write.2.path.same plan.source.path = true → write.1.IsStray registry write.2 := by
  have shows {write : Plan × Target} (member : write ∈ (of registry paths).writes registry changes)
      (steady : ¬ write.1.IsStray registry write.2) :
      write.1.slotOf write.2 = registry.shownSlot write.2.path := by
    obtain ⟨planned, target⟩ := (mem_writes_iff _ write).mp member
    exact Plan.slotOf_eq_shownSlot plain extended planned target steady
  constructor
  · refine pairwise_target_slots.imp_of_mem fun {first second} here there apart same => ?_
    by_contra steady
    rw [not_or] at steady
    apply apart
    rw [shows here steady.1, shows there steady.2]
    exact Registry.shownSlot_congr (by simpa [Path.same] using same)
  · intro write member plan planned same
    by_contra steady
    obtain ⟨listed, shown, unwritten⟩ := source_of_plan planned
    have meets : write.1.slotOf write.2 = (plan.key.components, plan.source.locale) := by
      rw [shows member steady, ← shown, ← Registry.shownSlot_of_extension (extended _ listed)]
      exact Registry.shownSlot_congr (by simpa [Path.same] using same)
    obtain ⟨planned', target⟩ := (mem_writes_iff _ write).mp member
    have own := plan_eq_of_key planned' planned (congrArg Prod.fst meets)
    rw [own] at target
    exact unwritten _ target (own ▸ congrArg Prod.snd meets)

/-- Both ways of going astray happen: `docs/zh.md` is written for `docs` and for `docs/zh`, and the
Chinese file made for the root is the source of another family. -/
theorem writes_coincide :
    let marked := ["docs/en.md", "docs/zh.zh.md"].map Path.ofText
    let rooted := ["/en.md", "/..md", "/.zh.md"].map Path.ofText
    Registry.bilingual.HasPlainCodes ∧ (∀ path ∈ marked ++ rooted, path.extension?.isSome = true) ∧
      ¬ ((of .bilingual marked).writes .bilingual .fullScan).Pairwise
        (fun first second => first.2.path.same second.2.path = false) ∧
      ∃ write ∈ (of .bilingual rooted).writes .bilingual .fullScan,
        ∃ plan ∈ (of .bilingual rooted).plans .bilingual .fullScan,
          write.2.path.same plan.source.path = true := by
  decide

/-- The new Chinese file of `docs/intro` is apart from the files of `docs`. -/
theorem writes_apart_intro :
    let writes := (of .bilingual [Path.ofText "docs/en.md", Path.ofText "docs/zh.md",
      Path.ofText "docs/intro.md"]).writes .bilingual .fullScan
    writes.map (fun write => write.2.path) = [Path.ofText "docs/zh.md", Path.ofText "docs/intro.zh.md"] ∧
      writes.Pairwise fun first second => first.2.path.same second.2.path = true →
        first.1.IsStray .bilingual first.2 ∨ second.1.IsStray .bilingual second.2 :=
  ⟨by decide, (writes_apart (by decide) (by decide)).1⟩

end Grouping

end LocaleFamilies
