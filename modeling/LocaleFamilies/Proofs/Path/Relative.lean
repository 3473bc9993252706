import LocaleFamilies.Path.Relative
import LocaleFamilies.Proofs.Path.Parts

/-! Paths below a base by their components. What is left of a path after some of its components has the
others, and joining it to the base gives the components of the whole path back. -/
namespace LocaleFamilies.Path

/-- Behind its first component a path has only names and steps to the parent. -/
theorem of_mem_tail {path : Path} {component : Component} (member : component ∈ path.components.tail) :
    component = .parent ∨ ∃ name, component = .name name := by
  have counted {parts : List Bytes} (inside : component ∈ parts.filterMap component?) :
      component = .parent ∨ ∃ name, component = .name name := by
    obtain ⟨part, -, found⟩ := List.mem_filterMap.mp inside
    exact component?_counts found
  rw [components_parts] at member
  split at member
  · exact counted member
  · split at member
    · exact counted member
    · exact counted (List.mem_of_mem_tail member)

theorem isAbsolute_join (base path : Path) :
    (base.join path).isAbsolute = (base.isAbsolute || path.isAbsolute) := by
  unfold join
  split
  · rename_i absolute
    rw [absolute, Bool.or_true]
  · rename_i relative
    rw [Bool.eq_false_iff.mpr relative, Bool.or_false]
    obtain ⟨spelling⟩ := base
    cases spelling with
    | nil => exact Bool.eq_false_iff.mpr relative
    | cons byte rest => split <;> rfl

theorem opened_of_isOpen {path : Path} (ready : path.IsOpen) : path.opened = path := by
  unfold opened
  rw [if_pos]
  rcases ready with empty | ⟨before, closed⟩
  · simp [empty]
  · simp [closed]

theorem opened_append {directory : Path} (ready : directory.IsOpen) (path : Path) :
    opened ⟨directory.spelling ++ path.spelling⟩ = ⟨directory.spelling ++ path.opened.spelling⟩ := by
  by_cases empty : path.spelling = []
  · have same : path.opened = path := opened_of_isOpen (Or.inl empty)
    rw [same, empty, List.append_nil]
    exact opened_of_isOpen ready
  · have last := List.getLast?_append_of_ne_nil directory.spelling empty
    by_cases closed : path.spelling.getLast? = some Bytes.slash
    · simp [opened, last, closed]
    · simp [opened, last, closed, empty]

/-- Joining is associative, in the spelling too. -/
theorem join_join (base path next : Path) : (base.join path).join next = base.join (path.join next) := by
  cases absolute : next.isAbsolute with
  | true =>
    have alone (first : Path) : first.join next = next := by rw [join, absolute, if_pos rfl]
    rw [alone, alone, alone]
  | false =>
    cases absolute' : path.isAbsolute with
    | true =>
      have alone (last : Path) (absolute : last.isAbsolute = true) : base.join last = last := by
        rw [join, absolute, if_pos rfl]
      rw [alone _ absolute', alone _ (by rw [isAbsolute_join, absolute', Bool.true_or])]
    | false =>
      have relative : (path.join next).isAbsolute = false := by
        rw [isAbsolute_join, absolute, absolute', Bool.or_false]
      rw [join_of_relative _ absolute, join_of_relative _ relative, join_of_relative _ absolute',
        join_of_relative _ absolute, opened_append (isOpen_opened base) path, List.append_assoc]

theorem exists_opened {base : Path} (some_byte : base.spelling ≠ []) :
    ∃ before, base.opened.spelling = before ++ [Bytes.slash] := by
  refine (isOpen_opened base).resolve_left fun empty => some_byte ?_
  rwa [← components_eq_nil_iff, components_opened, components_eq_nil_iff] at empty

/-- The components that a path adds to a base. A dot at its front is none of them. -/
def inside (path : Path) : List Component :=
  (Separated.parts Bytes.slash path.spelling).filterMap component?

theorem components_join_inside {base path : Path} (some_byte : base.spelling ≠ [])
    (relative : path.isAbsolute = false) :
    (base.join path).components = base.components ++ path.inside := by
  obtain ⟨before, closed⟩ := exists_opened some_byte
  rw [join_of_relative base relative, closed, List.append_assoc, List.singleton_append,
    components_slash, ← closed, components_opened]
  rfl

/-- A path that starts neither at the root nor with a dot is read on from the end of its base. -/
theorem components_join_relative (base : Path) {path : Path} (relative : path.isAbsolute = false)
    (undotted : path.components.head? ≠ some .current) :
    (base.join path).components = base.components ++ path.components := by
  have own : path.components = path.inside := by
    have parts := components_parts path
    rw [relative, if_neg Bool.false_ne_true] at parts
    split at parts
    · rw [parts] at undotted
      exact absurd rfl undotted
    · exact parts
  by_cases empty : base.spelling = []
  · rw [(components_eq_nil_iff base).mpr empty, join_of_relative base relative,
      opened_of_isOpen (Or.inl empty), empty]
    rfl
  · rw [components_join_inside empty relative, own]

section Dropping

theorem dropCounting_suffix (count : Nat) (body : List Bytes) : dropCounting count body <:+ body := by
  induction body generalizing count with
  | nil => cases count <;> exact List.suffix_rfl
  | cons part rest ih =>
    cases count with
    | zero =>
      rw [dropCounting]
      split
      · exact (ih 0).trans (List.suffix_cons _ _)
      · exact List.suffix_rfl
    | succ count =>
      rw [dropCounting]
      split
      · exact (ih (count + 1)).trans (List.suffix_cons _ _)
      · exact (ih count).trans (List.suffix_cons _ _)

theorem counts_of_head?_dropCounting (count : Nat) (body : List Bytes) :
    ∀ first ∈ (dropCounting count body).head?, isFiller first = false := by
  induction body generalizing count with
  | nil => cases count <;> simp [dropCounting]
  | cons part rest ih =>
    cases count with
    | zero =>
      rw [dropCounting]
      split
      · exact ih 0
      · rename_i counts
        simpa using counts
    | succ count =>
      rw [dropCounting]
      split
      · exact ih (count + 1)
      · exact ih count

theorem filterMap_dropCounting (count : Nat) (body : List Bytes) :
    (dropCounting count body).filterMap component? = (body.filterMap component?).drop count := by
  induction body generalizing count with
  | nil => cases count <;> simp [dropCounting]
  | cons part rest ih =>
    by_cases filler : isFiller part = true
    · have skipped := (component?_eq_none_iff part).mpr filler
      cases count <;> rw [dropCounting, if_pos filler, ih, List.filterMap_cons_none skipped]
    · obtain ⟨component, counted⟩ : ∃ component, component? part = some component := by
        rw [← Option.ne_none_iff_exists', Ne, component?_eq_none_iff]
        exact filler
      cases count with
      | zero => rw [dropCounting, if_neg filler, List.drop_zero]
      | succ count =>
        rw [dropCounting, if_neg filler, ih, List.filterMap_cons_some counted, List.drop_succ_cons]

private theorem components_trimmed {anatomy : Anatomy} (sound : anatomy.IsSound) :
    (Anatomy.toPath ⟨anatomy.lead, trimEnd anatomy.body⟩).components = anatomy.components := by
  rw [components_toPath (sound.start (isPrefix_trimEnd _)), Anatomy.components, filterMap_trimEnd]
  rfl

theorem components_dropComponents (path : Path) (count : Nat) :
    (path.dropComponents count).components = path.components.drop count := by
  have sound := sound_anatomy path
  cases count with
  | zero => exact components_trimmed sound
  | succ count =>
    have kept (counting : Nat) :
        Anatomy.IsSound ⟨.bare, dropCounting counting path.anatomy.body⟩ := by
      refine ⟨fun part member => sound.plain part ((dropCounting_suffix _ _).subset member), ?_⟩
      intro _ first member
      have counts := counts_of_head?_dropCounting counting _ first member
      simpa [isFiller] using counts
    have whole : path.components =
        path.anatomy.lead.components ++ path.anatomy.body.filterMap component? := rfl
    refine (components_trimmed (kept _)).trans ?_
    rw [Anatomy.components, filterMap_dropCounting, whole]
    cases path.anatomy.lead <;> simp [Lead.components]

end Dropping

/-- A path below a base is made of the base and what is left of the path. -/
theorem components_of_startsWith {path base : Path} (below : path.startsWith base = true) :
    path.components =
      base.components ++ (path.dropComponents base.components.length).components := by
  rw [components_dropComponents]
  exact (List.prefix_iff_eq_append.mp (List.isPrefixOf_iff_prefix.mp below)).symm

end LocaleFamilies.Path
