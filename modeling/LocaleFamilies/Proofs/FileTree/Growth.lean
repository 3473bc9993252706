import LocaleFamilies.FileTree.Access
import LocaleFamilies.Proofs.FileTree.Walk

/-! Trees that grow by files. A later tree may hold new files and new content in the old ones, and has
all else as it was. A path that leads to an old file of the later tree led to it before, since nothing
leads on from a file. Writing makes a tree grow, and so does making a directory that is there. -/
namespace LocaleFamilies

def Entry.IsFile (entry : Entry) : Prop := ∃ content runnable, entry = .file content runnable

namespace FileTree

/-- A later tree differs from a tree in what files hold and in new files only. -/
def Grows (tree later : FileTree) : Prop :=
  ∀ location, later.get? location = tree.get? location ∨
    (∃ entry, later.get? location = some entry ∧ entry.IsFile) ∧
      ∀ entry, tree.get? location = some entry → entry.IsFile

variable {tree later : FileTree} {follow : Bool} {links left : Nat}
  {directory location place : Location} {path : Path} {entry held : Entry} {steps : List Step}

theorem Grows.refl (tree : FileTree) : tree.Grows tree := fun _ => Or.inl rfl

theorem Grows.trans {last : FileTree} (first : tree.Grows later) (second : later.Grows last) :
    tree.Grows last := by
  intro location
  rcases second location with same | ⟨⟨entry, found, file⟩, old⟩
  · rw [same]
    exact first location
  · refine Or.inr ⟨⟨entry, found, file⟩, fun entry' before => ?_⟩
    rcases first location with same | ⟨-, old'⟩
    · exact old entry' (same.trans before)
    · exact old' entry' before

theorem Grows.get?_iff (grows : tree.Grows later) (not_file : ¬ entry.IsFile) :
    later.get? location = some entry ↔ tree.get? location = some entry := by
  rcases grows location with same | ⟨⟨other, found, file⟩, old⟩
  · rw [same]
  · constructor
    · intro here
      rw [found, Option.some.injEq] at here
      exact absurd (here ▸ file) not_file
    · intro before
      exact absurd (old entry before) not_file

theorem Grows.isFile (grows : tree.Grows later) (found : later.get? location = some entry)
    (file : entry.IsFile) (before : tree.get? location = some held) : held.IsFile := by
  rcases grows location with same | ⟨-, old⟩
  · rw [same, before, Option.some.injEq] at found
    exact found ▸ file
  · exact old held before

theorem not_isFile_directory : ¬ Entry.directory.IsFile := by
  rintro ⟨_, _, same⟩
  cases same

theorem not_isFile_link (target : Path) : ¬ (Entry.link target).IsFile := by
  rintro ⟨_, _, same⟩
  cases same

theorem entryAt_of_isFile (unfollowed : tree.entryAt directory false path = .ok (location, entry))
    (file : entry.IsFile) : tree.entryAt directory true path = .ok (location, entry) := by
  refine entryAt_of_not_link unfollowed ?_
  rintro target rfl
  exact not_isFile_link target file

/-- What arrives at a directory still arrives there. -/
theorem Grows.arrives (grows : tree.Grows later)
    (arrives : tree.Arrives links directory steps left place) :
    later.Arrives links directory steps left place := by
  induction arrives with
  | stop => exact .stop ..
  | slash _ ih => exact .slash ih
  | here _ ih => exact .here ih
  | up _ ih => exact .up ih
  | enter short found _ ih =>
    exact .enter short ((grows.get?_iff not_isFile_directory).mpr found) ih
  | chase short found some_byte _ ih =>
    exact .chase short ((grows.get?_iff (not_isFile_link _)).mpr found) some_byte ih

/-- What leads to an old file led to it before. -/
theorem Grows.leads (grows : tree.Grows later)
    (leads : Leads later follow links directory steps (.occupied location entry))
    (file : entry.IsFile) (before : tree.get? location = some held) :
    Leads tree follow links directory steps (.occupied location held) := by
  generalize same : Place.occupied location entry = goal at leads
  induction leads with
  | stop =>
    cases same
    exact absurd file not_isFile_directory
  | slash _ ih => exact .slash (ih same)
  | here _ ih => exact .here (ih same)
  | up _ ih => exact .up (ih same)
  | enter short found _ ih =>
    exact .enter short ((grows.get?_iff not_isFile_directory).mp found) (ih same)
  | chase short found on some_byte _ ih =>
    exact .chase short ((grows.get?_iff (not_isFile_link _)).mp found) on some_byte (ih same)
  | reach short found other last =>
    cases same
    have old := grows.isFile found file before
    refine .reach short before ?_ fun target linked => ?_
    · rintro rfl
      exact not_isFile_directory old
    · subst linked
      exact absurd old (not_isFile_link target)
  | free => cases same

/-- What a way leads to is in the tree if it is a file, and its place is free if it is vacant. -/
theorem Leads.holds {goal : Place} (leads : Leads tree follow links directory steps goal) :
    (∀ location entry, goal = .occupied location entry → entry.IsFile →
        tree.get? location = some entry) ∧
      ∀ location slashed, goal = .vacant location slashed → tree.get? location = none := by
  induction leads with
  | stop =>
    refine ⟨fun location entry same file => ?_, fun location slashed same => by cases same⟩
    cases same
    exact absurd file not_isFile_directory
  | slash _ ih | here _ ih | up _ ih | enter _ _ _ ih | chase _ _ _ _ _ ih => exact ih
  | reach _ found =>
    refine ⟨fun location entry same _ => ?_, fun location slashed same => by cases same⟩
    cases same
    exact found
  | free _ missing =>
    refine ⟨fun location entry same => (by cases same), fun location slashed same => ?_⟩
    cases same
    exact missing

theorem Leads.get?_of_vacant {slashed : Bool}
    (leads : Leads tree follow links directory steps (.vacant location slashed)) :
    tree.get? location = none :=
  leads.holds.2 _ _ rfl

theorem Leads.get?_of_isFile
    (leads : Leads tree follow links directory steps (.occupied location entry))
    (file : entry.IsFile) : tree.get? location = some entry :=
  leads.holds.1 _ _ rfl file

theorem get?_put (tree : FileTree) (location : Location) (entry : Entry) (other : Location) :
    (tree.put location entry).get? other = tree.get? other ∨
      other = location ∧ (tree.put location entry).get? other = some entry := by
  unfold put
  split
  · rename_i admitted
    simp only [admits, Bool.and_eq_true] at admitted
    have some_name := ne_nil_of_named admitted.1.1
    by_cases here : other = location
    · subst here
      refine Or.inr ⟨rfl, ?_⟩
      rw [get?, if_neg some_name, SortedMap.get?_insert_self]
    · left
      rw [get?, get?]
      split
      · rfl
      · exact SortedMap.get?_insert_of_ne _ _ here
  · exact Or.inl rfl

private theorem grows_put (file : entry.IsFile)
    (old : ∀ held, tree.get? location = some held → held.IsFile) :
    tree.Grows (tree.put location entry) := by
  intro other
  rcases get?_put tree location entry other with same | ⟨rfl, found⟩
  · exact Or.inl same
  · exact Or.inr ⟨⟨entry, found, file⟩, old⟩

/-- Writing makes a tree grow, and changes no old file but the one that the path leads to. -/
theorem grows_write {content : Bytes} (written : tree.write directory path content = .ok later) :
    tree.Grows later ∧ ∀ location held, tree.get? location = some held →
      later.get? location = some held ∨
        held.IsFile ∧ tree.entryAt directory true path = .ok (location, held) := by
  unfold write at written
  cases looked : tree.lookup directory true path with
  | error fault => simp [looked, bind, Except.bind] at written
  | ok goal =>
    obtain ⟨-, -, -, leads⟩ := lookup_eq_ok_iff.mp looked
    rw [looked] at written
    simp only [bind, Except.bind, pure, Except.pure] at written
    split at written
    · rename_i place old runnable
      cases written
      have found := leads.get?_of_isFile ⟨old, runnable, rfl⟩
      refine ⟨grows_put ⟨content, runnable, rfl⟩ ?_, fun location held before => ?_⟩
      · intro held before
        rw [found, Option.some.injEq] at before
        exact ⟨old, runnable, before.symm⟩
      · rcases get?_put tree place (.file content runnable) location with same | ⟨rfl, -⟩
        · exact Or.inl (same.trans before)
        · rw [found, Option.some.injEq] at before
          subst before
          exact Or.inr ⟨⟨old, runnable, rfl⟩, entryAt_eq_ok_iff.mpr looked⟩
    · cases written
      exact ⟨.refl _, fun _ _ before => Or.inl before⟩
    · cases written
    · rename_i place
      cases written
      have missing := leads.get?_of_vacant
      refine ⟨grows_put ⟨content, false, rfl⟩ ?_, fun location held before => Or.inl ?_⟩
      · intro held before
        rw [missing] at before
        cases before
      · rcases get?_put tree place (.file content false) location with same | ⟨rfl, -⟩
        · exact same.trans before
        · rw [missing] at before
          cases before
    · cases written

/-- Making something keeps every entry, since it is made where there is none. -/
theorem get?_make (made : tree.make directory path entry = .ok later)
    (before : tree.get? location = some held) : later.get? location = some held := by
  unfold make at made
  cases looked : tree.lookup directory false path with
  | error fault => simp [looked, bind, Except.bind] at made
  | ok goal =>
    obtain ⟨-, -, -, leads⟩ := lookup_eq_ok_iff.mp looked
    rw [looked] at made
    simp only [bind, Except.bind, pure, Except.pure] at made
    split at made
    · cases made
    · rename_i place slashed
      split at made
      · cases made
      · cases made
        rcases get?_put tree place entry location with same | ⟨rfl, -⟩
        · exact same.trans before
        · rw [leads.get?_of_vacant] at before
          cases before

private theorem get?_makeChain (above : List Path) (before : tree.get? location = some held) :
    (tree.makeChain directory above).1.get? location = some held := by
  induction above with
  | nil => exact before
  | cons path above ih =>
    unfold makeChain
    simp only
    split
    · exact before
    · split
      · exact get?_make ‹_› before
      · split
        · rename_i chain
          rwa [chain] at ih
        · rename_i chain
          rw [chain] at ih
          split
          · exact get?_make ‹_› ih
          · exact ih
      · exact before

theorem get?_makeDirectories (before : tree.get? location = some held) :
    (tree.makeDirectories directory path).1.get? location = some held :=
  get?_makeChain path.ancestors before

theorem makeDirectories_of_arrives
    (arrives : tree.Arrives linkLimit (origin directory path) (FileTree.steps path) left place) :
    (tree.makeDirectories directory path).1 = tree := by
  obtain ⟨above, chain⟩ : ∃ above, path.ancestors = path :: above := by
    unfold Path.ancestors
    cases path.components.length with
    | zero => exact ⟨[], rfl⟩
    | succ count => exact ⟨_, rfl⟩
  rw [makeDirectories, chain, makeChain]
  simp only
  split
  · rfl
  · rename_i some_byte
    obtain ⟨location, entry, leads⟩ := arrives.occupied.exists_unfollowed
    have refused : ∃ fault, fault ≠ .notFound ∧
        tree.makeDirectory directory path = .error fault := by
      unfold makeDirectory make lookup resolve
      rw [travel_eq_ok_iff.mpr leads]
      split
      · exact ⟨.nameTooLong, by decide, rfl⟩
      · split
        · exact ⟨.zeroByte, by decide, rfl⟩
        · exact ⟨.alreadyPresent, by decide, rfl⟩
    obtain ⟨fault, other, refused⟩ := refused
    rw [refused]
    cases fault with
    | notFound => exact absurd rfl other
    | _ => rfl

end FileTree

end LocaleFamilies
