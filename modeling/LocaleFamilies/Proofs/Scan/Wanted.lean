import LocaleFamilies.Proofs.Bytes
import LocaleFamilies.Proofs.FileTree.Growth

/-! Which of the files that it comes upon a scan wants. -/
namespace LocaleFamilies

/-- What a scan asks of a path: an extension that is listed, a place outside of the ignored ones, and a text
that no pattern stands for. Entries that are no patterns do not count. -/
structure Selection.Wants (selection : Selection) (root path : Path) : Prop where
  extension : ∃ extension ∈ selection.extensions, path.extension? = some (Bytes.ofText extension)
  outside : ∀ entry ∈ selection.ignores, Glob.hasWildcard entry = false →
    ¬ (root.join (.ofText entry)).components <+: path.components
  unmatched : ∀ entry ∈ selection.ignores, Glob.hasWildcard entry = true →
    ∀ pattern, Glob.read entry = .ok pattern → Glob.matchesText pattern path.display.toList = false

namespace Scan

variable {extensions : List String} {ignores : List Ignore} {path : Path}

theorem hasExtension_iff : hasExtension extensions path = true ↔
    ∃ extension ∈ extensions, path.extension? = some (Bytes.ofText extension) := by
  unfold hasExtension
  constructor
  · intro listed
    split at listed
    · rename_i extension read
      obtain ⟨bytes, found, text⟩ := Option.bind_eq_some_iff.mp read
      refine ⟨extension, List.contains_iff_mem.mp listed, ?_⟩
      rw [found, Bytes.ofText_of_text? text]
    · cases listed
  · rintro ⟨extension, listed, found⟩
    simp only [found, Option.bind_some, Bytes.text?_ofText]
    exact List.contains_iff_mem.mpr listed

theorem hasExtension_congr {first second : Path} (extensions : List String)
    (same : first.extension? = second.extension?) :
    hasExtension extensions first = hasExtension extensions second := by
  unfold hasExtension
  rw [same]

theorem extension?_isSome (wanted : hasExtension extensions path = true) :
    path.extension?.isSome = true := by
  obtain ⟨extension, -, found⟩ := hasExtension_iff.mp wanted
  rw [found]
  rfl

theorem file?_eq_some_iff {visit : FileTree.Visit} : file? extensions ignores visit = some path ↔
    (∃ entry : Entry, entry.IsFile ∧ visit = .found path entry) ∧
      hasExtension extensions path = true ∧ ∀ ignore ∈ ignores, ¬ ignore.covers path = true := by
  unfold file?
  split
  · rename_i found content runnable
    split
    · rename_i both
      simp only [Bool.and_eq_true, Bool.not_eq_true', List.any_eq_false] at both
      constructor
      · intro same
        cases same
        exact ⟨⟨_, ⟨content, runnable, rfl⟩, rfl⟩, both⟩
      · rintro ⟨⟨entry, -, same⟩, -⟩
        cases same
        rfl
    · rename_i not_both
      refine iff_of_false (by simp) ?_
      rintro ⟨⟨entry, -, same⟩, both⟩
      cases same
      refine not_both ?_
      simpa only [Bool.and_eq_true, Bool.not_eq_true', List.any_eq_false] using both
  · rename_i not_file
    refine iff_of_false (by simp) ?_
    rintro ⟨⟨entry, ⟨content, runnable, rfl⟩, rfl⟩, -⟩
    exact not_file _ _ _ rfl

def ignoresOf (root : Path) (selection : Selection) : List Ignore :=
  selection.ignores.filterMap fun entry => (Ignore.read root entry).toOption

theorem wants_iff {root : Path} {selection : Selection} : selection.Wants root path ↔
    hasExtension selection.extensions path = true ∧
      ∀ ignore ∈ ignoresOf root selection, ¬ ignore.covers path = true := by
  have covered (entry : String) :
      (∀ ignore, (Ignore.read root entry).toOption = some ignore → ¬ ignore.covers path = true) ↔
        (Glob.hasWildcard entry = false →
          ¬ (root.join (.ofText entry)).components <+: path.components) ∧
        (Glob.hasWildcard entry = true → ∀ pattern, Glob.read entry = .ok pattern →
          Glob.matchesText pattern path.display.toList = false) := by
    unfold Ignore.read
    cases Glob.hasWildcard entry with
    | false =>
      simp [Except.toOption, Ignore.covers, Path.startsWith, ← List.isPrefixOf_iff_prefix]
    | true =>
      cases Glob.read entry with
      | error cause => simp [Except.toOption, Functor.map, Except.map]
      | ok pattern => simp [Except.toOption, Functor.map, Except.map, Ignore.covers, Glob.accepts_eq]
  have every : (∀ ignore ∈ ignoresOf root selection, ¬ ignore.covers path = true) ↔
      ∀ entry ∈ selection.ignores, ∀ ignore, (Ignore.read root entry).toOption = some ignore →
        ¬ ignore.covers path = true := by
    simp only [ignoresOf, List.mem_filterMap]
    exact ⟨fun clear entry listed ignore read => clear ignore ⟨entry, listed, read⟩,
      fun clear ignore ⟨entry, listed, read⟩ => clear entry listed ignore read⟩
  rw [every, hasExtension_iff]
  simp only [covered]
  constructor
  · rintro ⟨extension, outside, unmatched⟩
    exact ⟨extension, fun entry listed => ⟨outside entry listed, unmatched entry listed⟩⟩
  · rintro ⟨extension, clear⟩
    exact ⟨extension, fun entry listed => (clear entry listed).1,
      fun entry listed => (clear entry listed).2⟩

end Scan

end LocaleFamilies
