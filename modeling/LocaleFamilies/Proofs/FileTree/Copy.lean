import LocaleFamilies.Proofs.FileTree.Walk
import LocaleFamilies.Proofs.Path.Relative

/-! Copies of a tree. A tree may hold all of another one below some location. Steps that stay inside of the
copy, neither going up from its top nor through a link out of it, lead to the same place in every copy. -/
namespace LocaleFamilies.FileTree

/-- A tree has a copy of another one below a location. -/
def Holds (tree project : FileTree) (top : Location) : Prop :=
  ∀ way, tree.get? (top ++ way) = project.get? way

/-- Whether there is a copy is seen from the entries on both sides. -/
theorem holds_iff {tree project : FileTree} {top : Location} : tree.Holds project top ↔
    tree.get? top = some .directory ∧
      (∀ held ∈ project.entries.entries, tree.get? (top ++ held.1) = some held.2) ∧
      ∀ held ∈ tree.entries.entries, top <+: held.1 →
        project.get? (held.1.drop top.length) = some held.2 := by
  have some_name {tree : FileTree} {held : Location × Entry} (member : held ∈ tree.entries.entries) :
      held.1 ≠ [] := ne_nil_of_named (tree.grounded _ _ member).1
  constructor
  · intro holds
    refine ⟨?_, fun held member => ?_, fun held member below => ?_⟩
    · have here := holds []
      rwa [List.append_nil] at here
    · rw [holds]
      exact (get?_eq_some_iff_mem (some_name member)).mpr member
    · obtain ⟨way, whole⟩ := below
      rw [← holds, ← whole, List.drop_left, whole]
      exact (get?_eq_some_iff_mem (some_name member)).mpr member
  · rintro ⟨here, copied, original⟩ way
    by_cases inside : way = []
    · rw [inside, List.append_nil, here]
      rfl
    refine Option.ext fun entry => ⟨fun found => ?_, fun found => ?_⟩
    · have member := (get?_eq_some_iff_mem (by simp [inside])).mp found
      have same := original _ member (List.prefix_append top way)
      rwa [List.drop_left] at same
    · exact copied _ ((get?_eq_some_iff_mem inside).mp found)

instance (tree project : FileTree) (top : Location) : Decidable (tree.Holds project top) :=
  decidable_of_iff _ holds_iff.symm

/-- Where a place of a copy is. -/
def Place.below (top : Location) : Place → Place
  | .occupied location entry => .occupied (top ++ location) entry
  | .vacant location slashed => .vacant (top ++ location) slashed

/-- Steps from a directory that stay inside of a tree wherever a copy of it is: none goes up from the top,
and the links on the way, of which there are at most so many, are relative. They need not lead anywhere. -/
inductive Stays (project : FileTree) : Nat → Location → List Step → Prop
  | stop (links : Nat) (directory : Location) : Stays project links directory []
  | slash {links directory rest} : Stays project links directory rest →
    Stays project links directory (.slash :: rest)
  | here {links directory rest} : Stays project links directory rest →
    Stays project links directory (.here :: rest)
  | up {links directory rest} : directory ≠ [] → Stays project links directory.dropLast rest →
    Stays project links directory (.up :: rest)
  | enter {links directory name rest} : project.get? (directory ++ [name]) = some .directory →
    Stays project links (directory ++ [name]) rest →
    Stays project links directory (.name name :: rest)
  | chase {links directory name target rest} :
    project.get? (directory ++ [name]) = some (.link target) → target.isAbsolute = false →
    Stays project links directory (FileTree.steps target ++ rest) →
    Stays project (links + 1) directory (.name name :: rest)
  | finish {links directory name rest} : project.get? (directory ++ [name]) ≠ some .directory →
    (∀ target, project.get? (directory ++ [name]) ≠ some (.link target)) →
    Stays project links directory (.name name :: rest)

variable {tree project : FileTree} {follow : Bool} {links left : Nat} {top way : Location}
  {steps : List Step}

/-- At a name that is neither a directory nor a link it shows what the steps lead to. -/
theorem travel_finish {name : Bytes} {rest : List Step} (holds : tree.Holds project top)
    (not_directory : project.get? (way ++ [name]) ≠ some .directory)
    (not_link : ∀ target, project.get? (way ++ [name]) ≠ some (.link target)) :
    tree.travel follow left (top ++ way) (.name name :: rest) =
      (project.travel follow links way (.name name :: rest)).map (Place.below top) := by
  by_cases short : name.length ≤ nameLimit
  swap
  · rw [travel_long _ _ _ short, travel_long _ _ _ short]
    rfl
  have here : tree.get? (top ++ way ++ [name]) = project.get? (way ++ [name]) := by
    rw [List.append_assoc, holds]
  cases found : project.get? (way ++ [name]) with
  | none =>
    rw [travel_missing _ _ _ short found, travel_missing _ _ _ short (here.trans found), holds]
    split
    · rw [List.append_assoc]
      rfl
    · rfl
  | some entry =>
    rw [found] at not_directory not_link
    have not_directory : entry ≠ .directory := fun same => not_directory (congrArg some same)
    have not_link (target : Path) : entry ≠ .link target := fun same =>
      not_link target (congrArg some same)
    rw [travel_other _ _ _ short found not_directory not_link,
      travel_other _ _ _ short (here.trans found) not_directory not_link]
    split
    · rw [List.append_assoc]
      rfl
    · rfl

/-- Steps that stay inside of a tree lead to the same place in every copy of it. -/
theorem Stays.travel_copy (stays : project.Stays links way steps) (holds : tree.Holds project top)
    (enough : links ≤ left) : tree.travel follow left (top ++ way) steps =
      (project.travel follow links way steps).map (Place.below top) := by
  induction stays generalizing left with
  | stop =>
    rw [travel_nil, travel_nil]
    rfl
  | slash _ ih => rw [travel_slash, travel_slash, ih enough]
  | here _ ih => rw [travel_here, travel_here, ih enough]
  | up inside _ ih =>
    rw [travel_up, travel_up, List.dropLast_append_of_ne_nil inside, ih enough]
  | @enter links way name rest found _ ih =>
    have here : tree.get? (top ++ way ++ [name]) = some .directory := by
      rw [List.append_assoc, holds, found]
    obtain ⟨-, -, -, -, short⟩ := isName_iff.mp (directory_of_get? found).2
    rw [travel_enter _ _ _ short found, travel_enter _ _ _ short here, List.append_assoc, ih enough]
  | @chase links way name target rest found relative _ ih =>
    have here : tree.get? (top ++ way ++ [name]) = some (.link target) := by
      rw [List.append_assoc, holds, found]
    obtain ⟨-, -, -, -, short⟩ := isName_iff.mp (directory_of_get? found).2
    obtain ⟨fewer, rfl⟩ := Nat.exists_eq_add_of_le' (Nat.one_le_of_lt enough)
    -- A relative link is read on from the directory that it is in, which the copy has moved.
    have start (directory : Location) : origin directory target = directory := by
      rw [origin, relative, if_neg Bool.false_ne_true]
    rw [travel_link _ _ _ short found, travel_link _ _ _ short here, pursue, pursue, start, start,
      ih (Nat.le_of_succ_le_succ enough)]
    split
    · rw [List.append_assoc]
      rfl
    · split <;> rfl
  | finish not_directory not_link => exact travel_finish holds not_directory not_link

/-- A relative path is read on from where its base arrives. -/
theorem exists_steps_join {base path : Path} (some_byte : base.spelling ≠ [])
    (relative : path.isAbsolute = false) :
    ∃ before, FileTree.steps (base.join path) = before ++ FileTree.steps path ∧
      before.filter Step.counts = (FileTree.steps base).filter Step.counts := by
  obtain ⟨before, closed⟩ := Path.exists_opened some_byte
  refine ⟨(Separated.parts Bytes.slash before).map .of, ?_, ?_⟩
  · rw [FileTree.steps, Path.join_of_relative base relative, closed, List.append_assoc,
      List.singleton_append, Separated.parts_append, List.map_append]
    rfl
  · rw [filter_steps, ← Path.components_opened, ← filter_steps, FileTree.steps, closed,
      Separated.parts_append, List.map_append, List.filter_append, Separated.parts_nil]
    exact (List.append_nil _).symm

end LocaleFamilies.FileTree
