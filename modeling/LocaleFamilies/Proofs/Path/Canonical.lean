import LocaleFamilies.Proofs.ChangeList.Printed
import LocaleFamilies.Proofs.Path.Normal
import Mathlib.Logic.Relation

/-! The normal form as a canonical one. Paths have one lexical resolution when each becomes the other by
leaving out dots, names that a step to the parent follows, and steps to the parent of the root, or by
putting such in. Leaving them out ends in the normal form, whichever goes first, so paths of one resolution
have one normal form and a change list does not tell them apart. -/
namespace LocaleFamilies

namespace Path

/-- One dot or detour less. -/
inductive Shortens : List Component → List Component → Prop
  | current (before after : List Component) : Shortens (before ++ .current :: after) (before ++ after)
  | detour (before : List Component) (name : Bytes) (after : List Component) :
    Shortens (before ++ .name name :: .parent :: after) (before ++ after)
  | top (before after : List Component) :
    Shortens (before ++ .root :: .parent :: after) (before ++ .root :: after)

/-- Whether two paths have one lexical resolution. -/
def ResolvesAs (path other : Path) : Prop :=
  Relation.EqvGen Shortens path.components other.components

/-- A path without dots and detours: below the root no step to the parent is left, and a relative path has
such steps at its front alone. -/
structure IsCanonical (path : Path) : Prop where
  undotted : .current ∉ path.components
  absolute : path.isAbsolute = true → .parent ∉ path.components
  relative : path.isAbsolute = false →
    ∃ count rest, path.components = List.replicate count .parent ++ rest ∧ .parent ∉ rest

section Shortening

variable {components shorter : List Component}

theorem Shortens.append (step : Shortens components shorter) (more : List Component) :
    Shortens (components ++ more) (shorter ++ more) := by
  cases step with
  | current before after => simpa using Shortens.current before (after ++ more)
  | detour before name after => simpa using Shortens.detour before name (after ++ more)
  | top before after => simpa using Shortens.top before (after ++ more)

theorem Shortens.normalComponents_eq (step : Shortens components shorter) :
    normalComponents components = normalComponents shorter := by
  cases step <;> simp [normalComponents, List.foldl_append, settle]

theorem Shortens.head?_eq_root (step : Shortens components shorter)
    (led : components.head? = some .root) : shorter.head? = some .root := by
  cases step with
  | current before after => cases before <;> simp_all
  | detour before name after => cases before <;> simp_all
  | top before after => cases before <;> simp_all

theorem normalComponents_eq_of_eqvGen (related : Relation.EqvGen Shortens components shorter) :
    normalComponents components = normalComponents shorter := by
  induction related with
  | rel _ _ step => exact step.normalComponents_eq
  | refl _ => rfl
  | symm _ _ _ ih => exact ih.symm
  | trans _ _ _ _ _ first second => exact first.trans second

/-- A component is settled by at most one step, at the end of what is settled already. -/
theorem shortens_settle (done : List Component) (component : Component) :
    Relation.ReflTransGen Shortens (done ++ [component])
      (settle done.reverse component).reverse := by
  have kept (other : List Component) (same : other = done ++ [component]) :
      Relation.ReflTransGen Shortens (done ++ [component]) other := by
    rw [same]
  cases component with
  | root => exact kept _ (by simp [settle])
  | name bytes => exact kept _ (by simp [settle])
  | current =>
    apply Relation.ReflTransGen.single
    simpa [settle] using Shortens.current done []
  | parent =>
    induction done using List.reverseRecOn with
    | nil => exact kept _ rfl
    | append_singleton before last _ =>
      cases last with
      | current => exact kept _ (by simp [settle])
      | parent => exact kept _ (by simp [settle])
      | name bytes =>
        apply Relation.ReflTransGen.single
        simpa [settle] using Shortens.detour before bytes []
      | root =>
        apply Relation.ReflTransGen.single
        simpa [settle] using Shortens.top before []

theorem shortens_normalComponents (components : List Component) :
    Relation.ReflTransGen Shortens components (normalComponents components) := by
  induction components using List.reverseRecOn with
  | nil => exact .refl
  | append_singleton components last ih =>
    have start : Relation.ReflTransGen Shortens (components ++ [last])
        (normalComponents components ++ [last]) :=
      ih.lift (· ++ [last]) fun _ _ step => step.append [last]
    rw [normalComponents_concat]
    exact start.trans (shortens_settle _ last)

theorem eqvGen_normalComponents (components : List Component) :
    Relation.EqvGen Shortens components (normalComponents components) :=
  Relation.EqvGen.reflTransGen_le_eqvGen _ _ _ (shortens_normalComponents components)

@[simp] theorem normalComponents_normalComponents (components : List Component) :
    normalComponents (normalComponents components) = normalComponents components :=
  (normalComponents_eq_of_eqvGen (eqvGen_normalComponents components)).symm

end Shortening

section Shape

theorem IsNormal.normalComponents_eq {components : List Component} (normal : IsNormal components) :
    normalComponents components = components := by
  cases normal with
  | rooted names =>
    induction names using List.reverseRecOn with
    | nil => rfl
    | append_singleton names last ih =>
      rw [List.map_append, List.map_singleton, ← List.cons_append, normalComponents_concat_name, ih]
  | relative count names =>
    induction names using List.reverseRecOn with
    | nil =>
      rw [List.map_nil, List.append_nil]
      induction count with
      | zero => rfl
      | succ count ih =>
        have step : normalComponents (List.replicate (count + 1) .parent) =
            (Path.settle (List.replicate count .parent) .parent).reverse := by
          rw [List.replicate_succ', normalComponents_concat, ih, List.reverse_replicate]
        rw [step]
        cases count with
        | zero => rfl
        | succ count =>
          have kept : Path.settle (List.replicate (count + 1) .parent) .parent =
              List.replicate (count + 2) .parent := rfl
          rw [kept, List.reverse_replicate]
    | append_singleton names last ih =>
      rw [List.map_append, List.map_singleton, ← List.append_assoc, normalComponents_concat_name, ih]

private theorem exists_names {components : List Component}
    (named : ∀ component ∈ components, ∃ name, component = .name name) :
    ∃ names : List Bytes, components = names.map Component.name := by
  induction components with
  | nil => exact ⟨[], rfl⟩
  | cons first rest ih =>
    obtain ⟨name, rfl⟩ := named first List.mem_cons_self
    obtain ⟨names, rfl⟩ := ih fun other member => named other (List.mem_cons_of_mem _ member)
    exact ⟨name :: names, rfl⟩

theorem isAbsolute_of_root_mem {path : Path} (member : .root ∈ path.components) :
    path.isAbsolute = true := by
  rw [isAbsolute_iff]
  have later := @of_mem_tail path .root
  cases shape : path.components with
  | nil => simp [shape] at member
  | cons first rest =>
    rw [shape, List.tail_cons] at later
    rw [shape, List.mem_cons] at member
    rcases member with rfl | inside
    · rfl
    · rcases later inside with step | ⟨name, step⟩ <;> cases step

variable {path : Path}

theorem IsCanonical.isNormal (canonical : path.IsCanonical) : IsNormal path.components := by
  cases absolute : path.isAbsolute with
  | true =>
    obtain ⟨rest, whole⟩ := List.head?_eq_some_iff.mp (path.isAbsolute_iff.mp absolute)
    have below := canonical.absolute absolute
    obtain ⟨names, rfl⟩ : ∃ names : List Bytes, rest = names.map Component.name := by
      apply exists_names
      intro component member
      have inside : component ∈ path.components := whole ▸ List.mem_cons_of_mem _ member
      have counts := @of_mem_tail path component (by rw [whole]; exact member)
      refine counts.resolve_left ?_
      rintro rfl
      exact below inside
    rw [whole]
    exact .rooted names
  | false =>
    obtain ⟨count, rest, whole, forth⟩ := canonical.relative absolute
    obtain ⟨names, rfl⟩ : ∃ names : List Bytes, rest = names.map Component.name := by
      apply exists_names
      intro component member
      have inside : component ∈ path.components := whole ▸ List.mem_append_right _ member
      cases component with
      | root => simp [isAbsolute_of_root_mem inside] at absolute
      | current => exact absurd inside canonical.undotted
      | parent => exact absurd member forth
      | name bytes => exact ⟨bytes, rfl⟩
    rw [whole]
    exact .relative count names

theorem IsNormal.isCanonical (normal : IsNormal path.components) : path.IsCanonical := by
  have led := path.isAbsolute_iff
  generalize shape : path.components = components at normal led
  cases normal with
  | rooted names =>
    constructor
    · simp [shape]
    · simp [shape]
    · intro relative
      simp [relative] at led
  | relative count names =>
    constructor
    · simp [shape]
    · intro absolute
      rw [absolute] at led
      cases count with
      | zero => simp [shape]
      | succ count => simp [List.replicate_succ] at led
    · intro _
      exact ⟨count, names.map .name, shape, by simp⟩

theorem isCanonical_normalize (path : Path) : path.normalize.IsCanonical := by
  apply IsNormal.isCanonical
  rw [components_normalize]
  exact path.isNormal_normalComponents

theorem same_normalize_iff (path : Path) : path.normalize.same path = true ↔ path.IsCanonical := by
  rw [same, beq_iff_eq, components_normalize]
  constructor
  · intro settled
    apply IsNormal.isCanonical
    rw [← settled]
    exact path.isNormal_normalComponents
  · intro canonical
    exact canonical.isNormal.normalComponents_eq

theorem isAbsolute_normalize (path : Path) : path.normalize.isAbsolute = path.isAbsolute := by
  rw [Bool.eq_iff_iff, isAbsolute_iff, components_normalize]
  constructor
  · intro led
    exact isAbsolute_of_root_mem (mem_of_mem_normalComponents (List.mem_of_head? led))
  · intro absolute
    have led := path.isAbsolute_iff.mp absolute
    have steps := shortens_normalComponents path.components
    generalize normalComponents path.components = settled at steps
    induction steps with
    | refl => exact led
    | tail _ step ih => exact step.head?_eq_root ih

end Shape

section Resolution

theorem normalize_eq_iff (path other : Path) : path.normalize = other.normalize ↔ path.ResolvesAs other := by
  constructor
  · intro same
    have settled := congrArg components same
    rw [components_normalize, components_normalize] at settled
    have back := (eqvGen_normalComponents other.components).symm
    rw [← settled] at back
    exact (eqvGen_normalComponents path.components).trans _ _ _ back
  · intro related
    rw [normalize, normalize, normalComponents_eq_of_eqvGen related]

theorem normalize_normalize (path : Path) : path.normalize.normalize = path.normalize := by
  rw [normalize_eq_iff, ResolvesAs, components_normalize]
  exact (eqvGen_normalComponents path.components).symm

/-- A relative path is settled stretch by stretch; a dot at its front counts for nothing. -/
theorem foldl_settle_components {path : Path} (relative : path.isAbsolute = false)
    (done : List Component) :
    path.components.foldl settle done =
      ((Separated.parts Bytes.slash path.spelling).filterMap component?).foldl settle done := by
  rw [components_parts, relative, if_neg Bool.false_ne_true]
  split <;> rfl

/-- A relative path below a base is settled on from where the base ends. -/
theorem foldl_settle_join (base : Path) {path : Path} (relative : path.isAbsolute = false) :
    (base.join path).components.foldl settle [] =
      path.components.foldl settle (base.components.foldl settle []) := by
  rw [join_of_relative base relative, ← components_opened base]
  rcases isOpen_opened base with empty | ⟨before, closed⟩
  · rw [(components_eq_nil_iff _).mpr empty, empty]
    rfl
  · rw [closed, List.append_assoc, List.singleton_append, components_slash, ← closed,
      List.foldl_append, ← foldl_settle_components relative]

theorem normalize_join (base path : Path) :
    (base.join path).normalize = (base.normalize.join path).normalize := by
  cases absolute : path.isAbsolute with
  | true => rw [join, join, if_pos absolute, if_pos absolute]
  | false =>
    have start : base.components.foldl settle [] = base.normalize.components.foldl settle [] := by
      apply List.reverse_injective
      show normalComponents base.components = normalComponents base.normalize.components
      rw [components_normalize, normalComponents_normalComponents]
    rw [normalize, normalize, normalComponents, normalComponents, foldl_settle_join _ absolute,
      foldl_settle_join _ absolute, start]

/-- Change lists tell two paths apart exactly if the paths do not have one resolution. -/
theorem contains_eq_iff (path other : Path) :
    (∀ changes : ChangeList, changes.contains path = changes.contains other) ↔
      path.ResolvesAs other := by
  rw [← normalize_eq_iff]
  constructor
  · intro alike
    have own : (ChangeList.ofPaths [other]).contains other = true := by
      rw [ChangeList.contains_ofPaths_iff]
      exact ⟨other, List.mem_singleton_self other, beq_self_eq_true _⟩
    rw [← alike, ChangeList.contains_ofPaths_iff] at own
    obtain ⟨listed, member, settled⟩ := own
    rw [List.mem_singleton.mp member, same, beq_iff_eq] at settled
    rw [← normalize_normalize path, ← normalize_normalize other]
    exact normalize_congr settled
  · intro settled changes
    cases changes with
    | fullScan => rfl
    | listed paths => simp only [ChangeList.contains, settled]

end Resolution

/-- The normal form of a path has no dots and no detours and starts where the path does. It is its own
normal form, and a path is spelled like it, up to fillers, exactly if it is free of dots and detours
already. A path may be brought to its normal form before another one is read from there. Two paths have one
normal form exactly if they have one resolution, which is when no change list tells them apart. -/
theorem normalize_is_canonical (path : Path) :
    path.normalize.IsCanonical ∧ path.normalize.isAbsolute = path.isAbsolute ∧
      path.normalize.normalize = path.normalize ∧
      (path.normalize.same path = true ↔ path.IsCanonical) ∧
      (∀ rest : Path, (path.join rest).normalize = (path.normalize.join rest).normalize) ∧
      (∀ other : Path, path.normalize = other.normalize ↔ path.ResolvesAs other) ∧
      ∀ other : Path, (∀ changes : ChangeList, changes.contains path = changes.contains other) ↔
        path.ResolvesAs other :=
  ⟨path.isCanonical_normalize, path.isAbsolute_normalize, path.normalize_normalize,
    path.same_normalize_iff, path.normalize_join, path.normalize_eq_iff, path.contains_eq_iff⟩

example : (Path.ofText "a/./b/../../../c//d").normalize = Path.ofText "../c/d" := by decide

end Path

end LocaleFamilies
