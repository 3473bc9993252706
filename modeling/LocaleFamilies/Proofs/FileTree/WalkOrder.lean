import LocaleFamilies.FileTree.Basic
import Mathlib.Data.List.Dedup
import Mathlib.Data.List.Perm.Basic

/-! The order in which a walk comes upon what lies below its start: a directory before what it holds, and
the entries of one directory by the bytes of their names. It is the order in which a tree keeps its
entries. -/
namespace LocaleFamilies.FileTree

/-- The order of a walk: a directory comes before what it holds, and of two entries of one directory the one
with the lesser name comes first, with all that it holds. -/
inductive Precedes : Location → Location → Prop
  | above (location : Location) (name : Bytes) (below : Location) :
    Precedes location (location ++ name :: below)
  | beside (location : Location) {name other : Bytes} (less : name < other) (below below' : Location) :
    Precedes (location ++ name :: below) (location ++ other :: below')

section Order

theorem lt_of_compare {name other : Bytes} (less : compare name other = .lt) : name < other := by
  induction name generalizing other with
  | nil =>
    cases other with
    | nil => cases less
    | cons byte rest => exact List.nil_lt_cons byte rest
  | cons byte rest ih =>
    cases other with
    | nil => cases less
    | cons byte' rest' =>
      rw [List.compare_eq_compareLex, List.compareLex_cons_cons, Ordering.then_eq_lt] at less
      rw [List.cons_lt_cons_iff]
      rcases less with less | ⟨same, less⟩
      · exact Or.inl (Std.compare_eq_lt.mp less)
      · exact Or.inr ⟨Std.LawfulEqOrd.eq_of_compare same, ih less⟩

theorem Precedes.cons {first second : Location} (precedes : Precedes first second) (name : Bytes) :
    Precedes (name :: first) (name :: second) := by
  cases precedes with
  | above _ other below => exact .above (name :: first) other below
  | beside location less below below' => exact .beside (name :: location) less below below'

theorem precedes_of_compare {first second : Location} (less : compare first second = .lt) :
    Precedes first second := by
  induction first generalizing second with
  | nil =>
    cases second with
    | nil => cases less
    | cons name rest => exact .above [] name rest
  | cons name rest ih =>
    cases second with
    | nil => cases less
    | cons name' rest' =>
      rw [List.compare_eq_compareLex, List.compareLex_cons_cons, Ordering.then_eq_lt] at less
      rcases less with less | ⟨same, less⟩
      · exact .beside [] (lt_of_compare less) rest rest'
      · rw [Std.LawfulEqOrd.eq_of_compare same]
        exact (ih less).cons name'

theorem Precedes.ne {first second : Location} (precedes : Precedes first second) :
    first ≠ second := by
  cases precedes with
  | above => simp
  | beside location less below below' =>
    intro same
    obtain ⟨rfl, -⟩ := List.cons.inj (List.append_cancel_left same)
    exact List.lt_irrefl _ less

theorem compare_append_left (top first second : Location) :
    compare (top ++ first) (top ++ second) = compare first second := by
  induction top with
  | nil => rfl
  | cons name rest ih =>
    have same : compare name name = .eq := Std.ReflCmp.compare_self
    rw [List.cons_append, List.cons_append, List.compare_eq_compareLex, List.compareLex_cons_cons, same]
    exact ih

theorem compare_of_lt {name other : Bytes} (less : name < other) : compare name other = .lt := by
  cases order : compare name other with
  | lt => rfl
  | eq => exact absurd (Std.LawfulEqOrd.eq_of_compare order ▸ less) (List.lt_irrefl _)
  | gt => exact absurd (lt_of_compare (Std.OrientedCmp.lt_of_gt order)) (List.lt_asymm less)

/-- What comes before in a walk comes before in the tree. -/
theorem Precedes.compare_eq {first second : Location} (precedes : Precedes first second) :
    compare first second = .lt := by
  cases precedes with
  | above _ name below =>
    have same := compare_append_left first [] (name :: below)
    rw [List.append_nil] at same
    rw [same]
    rfl
  | beside location less below below' =>
    rw [compare_append_left, List.compare_eq_compareLex, List.compareLex_cons_cons,
      compare_of_lt less]
    rfl

theorem Precedes.asymm {first second : Location} (precedes : Precedes first second) :
    ¬ Precedes second first := by
  intro back
  have order := Std.OrientedCmp.gt_of_lt back.compare_eq
  rw [precedes.compare_eq] at order
  cases order

end Order

/-- Ways in the order of a walk: those that are meant, each of them once. -/
structure Enumerates (meant : List Bytes → Prop) (ways : List (List Bytes)) : Prop where
  ordered : ways.Pairwise Precedes
  exact : ∀ way, way ∈ ways ↔ meant way

variable {meant meant' : List Bytes → Prop} {ways ways' : List (List Bytes)}

theorem Enumerates.nodup (enumerates : Enumerates meant ways) : ways.Nodup :=
  enumerates.ordered.imp Precedes.ne

/-- There is one way to list what is meant. -/
theorem Enumerates.unique (enumerates : Enumerates meant ways) (enumerates' : Enumerates meant' ways')
    (same : ∀ way, meant way ↔ meant' way) : ways = ways' := by
  have alike : ways.Perm ways' := (List.perm_ext_iff_of_nodup enumerates.nodup enumerates'.nodup).mpr
    fun way => (enumerates.exact way).trans ((same way).trans (enumerates'.exact way).symm)
  exact alike.eq_of_pairwise (fun _ _ _ _ before after => absurd after before.asymm)
    enumerates.ordered enumerates'.ordered

theorem Enumerates.filter (enumerates : Enumerates meant ways) (keep : List Bytes → Bool) :
    Enumerates (fun way => meant way ∧ keep way = true) (ways.filter keep) where
  ordered := enumerates.ordered.filter keep
  exact way := by rw [List.mem_filter, enumerates.exact]

end LocaleFamilies.FileTree
