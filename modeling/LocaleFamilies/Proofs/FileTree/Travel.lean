import LocaleFamilies.FileTree.Lookup
import LocaleFamilies.Proofs.Path.Components
import Mathlib.Data.List.Basic

/-! Travelling by rules. A path leads to a place by one rule for each kind of step, and a path that
goes on leads to it by way of a directory at which its start arrives. Only the components of the start
matter for that. -/
namespace LocaleFamilies.FileTree

/-- What steps from a directory lead to, through at most so many links. -/
inductive Leads (tree : FileTree) (follow : Bool) : Nat → Location → List Step → Place → Prop
  | stop (links : Nat) (directory : Location) :
    Leads tree follow links directory [] (.occupied directory .directory)
  | slash {links directory rest goal} : Leads tree follow links directory rest goal →
    Leads tree follow links directory (.slash :: rest) goal
  | here {links directory rest goal} : Leads tree follow links directory rest goal →
    Leads tree follow links directory (.here :: rest) goal
  | up {links directory rest goal} : Leads tree follow links directory.dropLast rest goal →
    Leads tree follow links directory (.up :: rest) goal
  | enter {links directory name rest goal} : name.length ≤ nameLimit →
    tree.get? (directory ++ [name]) = some .directory →
    Leads tree follow links (directory ++ [name]) rest goal →
    Leads tree follow links directory (.name name :: rest) goal
  | chase {links directory name target rest goal} : name.length ≤ nameLimit →
    tree.get? (directory ++ [name]) = some (.link target) → rest ≠ [] ∨ follow = true →
    target.spelling ≠ [] →
    Leads tree follow links (origin directory target) (FileTree.steps target ++ rest) goal →
    Leads tree follow (links + 1) directory (.name name :: rest) goal
  | reach {links directory name entry} : name.length ≤ nameLimit →
    tree.get? (directory ++ [name]) = some entry → entry ≠ .directory →
    (∀ target, entry = .link target → follow = false) →
    Leads tree follow links directory [.name name] (.occupied (directory ++ [name]) entry)
  | free {links directory name rest} : name.length ≤ nameLimit →
    tree.get? (directory ++ [name]) = none → tree.get? directory = some .directory →
    (∀ step ∈ rest, step = .slash) →
    Leads tree follow links directory (.name name :: rest)
      (.vacant (directory ++ [name]) !rest.isEmpty)

/-- Steps from a directory that arrive at a directory, with every link on the way followed, and how
many links may still be followed there. -/
inductive Arrives (tree : FileTree) : Nat → Location → List Step → Nat → Location → Prop
  | stop (links : Nat) (directory : Location) : Arrives tree links directory [] links directory
  | slash {links directory rest left place} : Arrives tree links directory rest left place →
    Arrives tree links directory (.slash :: rest) left place
  | here {links directory rest left place} : Arrives tree links directory rest left place →
    Arrives tree links directory (.here :: rest) left place
  | up {links directory rest left place} : Arrives tree links directory.dropLast rest left place →
    Arrives tree links directory (.up :: rest) left place
  | enter {links directory name rest left place} : name.length ≤ nameLimit →
    tree.get? (directory ++ [name]) = some .directory →
    Arrives tree links (directory ++ [name]) rest left place →
    Arrives tree links directory (.name name :: rest) left place
  | chase {links directory name target rest left place} : name.length ≤ nameLimit →
    tree.get? (directory ++ [name]) = some (.link target) → target.spelling ≠ [] →
    Arrives tree links (origin directory target) (FileTree.steps target ++ rest) left place →
    Arrives tree (links + 1) directory (.name name :: rest) left place

variable {tree : FileTree} {follow : Bool} {links left : Nat} {directory place : Location}
  {name : Bytes} {rest steps : List Step} {goal : Place}

section Equations

variable (tree follow links directory rest)

theorem travel_nil :
    tree.travel follow links directory [] = .ok (.occupied directory .directory) := by
  cases links <;> rfl

theorem travel_slash : tree.travel follow links directory (.slash :: rest) =
    tree.travel follow links directory rest := by
  cases links <;> rfl

theorem travel_here : tree.travel follow links directory (.here :: rest) =
    tree.travel follow links directory rest := by
  cases links <;> rfl

theorem travel_up : tree.travel follow links directory (.up :: rest) =
    tree.travel follow links directory.dropLast rest := by
  cases links <;> rfl

/-- What comes of a link that must be followed. -/
def pursue : Nat → Location → Path → List Step → Except Fault Place
  | 0, _, _, _ => .error .tooManyLinks
  | links + 1, directory, target, rest =>
    if target.spelling.isEmpty then .error .notFound
    else tree.travel follow links (origin directory target) (FileTree.steps target ++ rest)

private theorem travel_eq :
    tree.travel follow links = tree.advance follow (pursue tree follow links) := by
  cases links <;> rfl

variable {rest} {directory}

theorem travel_long (long : ¬ name.length ≤ nameLimit) :
    tree.travel follow links directory (.name name :: rest) = .error .nameTooLong := by
  rw [travel_eq, advance, if_pos (Nat.not_le.mp long)]

variable (short : name.length ≤ nameLimit)

include short

theorem travel_missing (missing : tree.get? (directory ++ [name]) = none) :
    tree.travel follow links directory (.name name :: rest) =
      if tree.get? directory == some .directory && rest.all (· == .slash) then
        .ok (.vacant (directory ++ [name]) !rest.isEmpty)
      else .error .notFound := by
  rw [travel_eq, advance, if_neg (Nat.not_lt.mpr short)]
  simp only [missing]

theorem travel_enter (found : tree.get? (directory ++ [name]) = some .directory) :
    tree.travel follow links directory (.name name :: rest) =
      tree.travel follow links (directory ++ [name]) rest := by
  rw [travel_eq, advance, if_neg (Nat.not_lt.mpr short)]
  simp only [found]

theorem travel_link {target : Path}
    (linked : tree.get? (directory ++ [name]) = some (.link target)) :
    tree.travel follow links directory (.name name :: rest) =
      if rest.isEmpty && !follow then .ok (.occupied (directory ++ [name]) (.link target))
      else pursue tree follow links directory target rest := by
  rw [travel_eq, advance, if_neg (Nat.not_lt.mpr short)]
  simp only [linked]

theorem travel_other {entry : Entry} (held : tree.get? (directory ++ [name]) = some entry)
    (not_directory : entry ≠ .directory) (not_link : ∀ target, entry ≠ .link target) :
    tree.travel follow links directory (.name name :: rest) =
      if rest.isEmpty then .ok (.occupied (directory ++ [name]) entry)
      else .error .notDirectory := by
  rw [travel_eq, advance, if_neg (Nat.not_lt.mpr short)]
  cases entry with
  | directory => exact absurd rfl not_directory
  | link target => exact absurd rfl (not_link target)
  | file content runnable => simp only [held]
  | sink => simp only [held]
  | program program => simp only [held]

end Equations

/-- The rules for a name, if the steps after it and those through fewer links follow the rules. -/
private theorem leads_of_travel_name
    (found : tree.travel follow links directory (.name name :: rest) = .ok goal)
    (inside : tree.travel follow links (directory ++ [name]) rest = .ok goal →
      Leads tree follow links (directory ++ [name]) rest goal)
    (further : ∀ fewer < links, ∀ directory steps,
      tree.travel follow fewer directory steps = .ok goal →
        Leads tree follow fewer directory steps goal) :
    Leads tree follow links directory (.name name :: rest) goal := by
  by_cases short : name.length ≤ nameLimit
  swap
  · rw [travel_long tree follow links short] at found
    cases found
  cases held : tree.get? (directory ++ [name]) with
  | none =>
    rw [travel_missing tree follow links short held] at found
    split at found
    · rename_i both
      simp only [Bool.and_eq_true, beq_iff_eq, List.all_eq_true] at both
      cases found
      exact .free short held both.1 both.2
    · cases found
  | some entry =>
    by_cases entered : entry = .directory
    · subst entered
      rw [travel_enter tree follow links short held] at found
      exact .enter short held (inside found)
    by_cases linked : ∃ target, entry = .link target
    · obtain ⟨target, rfl⟩ := linked
      rw [travel_link tree follow links short held] at found
      split at found
      · rename_i last
        simp only [Bool.and_eq_true, List.isEmpty_iff, Bool.not_eq_true'] at last
        cases found
        rw [last.1]
        exact .reach short held (by simp) fun _ _ => last.2
      · rename_i on
        cases links with
        | zero => cases found
        | succ links =>
          rw [pursue] at found
          split at found
          · cases found
          · rename_i some_byte
            have pursued : rest ≠ [] ∨ follow = true := by
              cases rest <;> cases follow <;> simp at on ⊢
            exact .chase short held pursued (by simpa using some_byte)
              (further links (Nat.lt_succ_self _) _ _ found)
    · rw [travel_other tree follow links short held entered
        (fun target same => linked ⟨target, same⟩)] at found
      split at found
      · rename_i last
        cases found
        rw [List.isEmpty_iff.mp last]
        exact .reach short held entered fun target same => absurd ⟨target, same⟩ linked
      · cases found

private theorem leads_of_travel (found : tree.travel follow links directory steps = .ok goal) :
    Leads tree follow links directory steps goal := by
  induction links using Nat.strongRecOn generalizing directory steps with
  | ind links further =>
  induction steps generalizing directory with
  | nil =>
    rw [travel_nil] at found
    cases found
    exact .stop ..
  | cons step rest ih =>
    cases step with
    | slash => exact .slash (ih (by rwa [travel_slash] at found))
    | here => exact .here (ih (by rwa [travel_here] at found))
    | up => exact .up (ih (by rwa [travel_up] at found))
    | name name =>
      exact leads_of_travel_name found ih fun fewer less _ _ found => further fewer less found

theorem travel_eq_ok_iff : tree.travel follow links directory steps = .ok goal ↔
    Leads tree follow links directory steps goal := by
  constructor
  · exact leads_of_travel
  · intro leads
    induction leads with
    | stop => exact travel_nil ..
    | slash _ ih => rw [travel_slash, ih]
    | here _ ih => rw [travel_here, ih]
    | up _ ih => rw [travel_up, ih]
    | enter short found _ ih => rw [travel_enter _ _ _ short found, ih]
    | @chase links directory name target rest goal short linked on some_byte _ ih =>
      have pursued : (rest.isEmpty && !follow) = false := by
        rcases on with more | rfl
        · simp [more]
        · simp
      rw [travel_link _ _ _ short linked, pursued, if_neg Bool.false_ne_true, pursue, if_neg, ih]
      simpa using some_byte
    | @reach links directory name entry short held other last =>
      by_cases linked : ∃ target, entry = .link target
      · obtain ⟨target, rfl⟩ := linked
        rw [travel_link _ _ _ short held, last target rfl]
        rfl
      · rw [travel_other _ _ _ short held other fun target same => linked ⟨target, same⟩]
        rfl
    | free short missing parent slashes =>
      rw [travel_missing _ _ _ short missing, if_pos]
      simpa [parent] using slashes

/-- What a path leads to is found from where its start arrives. -/
theorem Arrives.travel_append (arrives : tree.Arrives links directory steps left place)
    (more : rest ≠ []) : tree.travel follow links directory (steps ++ rest) =
      tree.travel follow left place rest := by
  induction arrives with
  | stop => rfl
  | slash _ ih => rw [List.cons_append, travel_slash, ih]
  | here _ ih => rw [List.cons_append, travel_here, ih]
  | up _ ih => rw [List.cons_append, travel_up, ih]
  | enter short found _ ih => rw [List.cons_append, travel_enter _ _ _ short found, ih]
  | @chase links directory name target steps left place short found some_byte _ ih =>
    have goes_on : ((steps ++ rest).isEmpty && !follow) = false := by simp [more]
    rw [List.append_assoc] at ih
    rw [List.cons_append, travel_link _ _ _ short found, goes_on, if_neg Bool.false_ne_true, pursue,
      if_neg (by simpa using some_byte), ih]

/-- A path goes on from where its start arrives. -/
theorem Arrives.leads (arrives : tree.Arrives links directory steps left place)
    (more : rest ≠ []) (leads : Leads tree follow left place rest goal) :
    Leads tree follow links directory (steps ++ rest) goal := by
  rw [← travel_eq_ok_iff, arrives.travel_append more]
  exact travel_eq_ok_iff.mpr leads

/-- A path that goes on by more than slashes has a start that arrives. -/
theorem Leads.exists_arrives (leads : Leads tree follow links directory (steps ++ rest) goal)
    (more : ∃ step ∈ rest, step ≠ .slash) :
    ∃ left place, tree.Arrives links directory steps left place ∧
      Leads tree follow left place rest goal := by
  generalize whole : steps ++ rest = all at leads
  -- A link puts its own steps before those that are left, so the cut moves along with the rules.
  induction leads generalizing steps with
  | stop =>
    obtain ⟨-, rfl⟩ := List.append_eq_nil_iff.mp whole
    obtain ⟨step, member, -⟩ := more
    cases member
  | slash later ih =>
    rcases List.append_eq_cons_iff.mp whole with ⟨rfl, rfl⟩ | ⟨start, rfl, same⟩
    · exact ⟨_, _, .stop .., .slash later⟩
    · obtain ⟨left, place, arrives, leads⟩ := ih same.symm
      exact ⟨left, place, .slash arrives, leads⟩
  | here later ih =>
    rcases List.append_eq_cons_iff.mp whole with ⟨rfl, rfl⟩ | ⟨start, rfl, same⟩
    · exact ⟨_, _, .stop .., .here later⟩
    · obtain ⟨left, place, arrives, leads⟩ := ih same.symm
      exact ⟨left, place, .here arrives, leads⟩
  | up later ih =>
    rcases List.append_eq_cons_iff.mp whole with ⟨rfl, rfl⟩ | ⟨start, rfl, same⟩
    · exact ⟨_, _, .stop .., .up later⟩
    · obtain ⟨left, place, arrives, leads⟩ := ih same.symm
      exact ⟨left, place, .up arrives, leads⟩
  | enter short found later ih =>
    rcases List.append_eq_cons_iff.mp whole with ⟨rfl, rfl⟩ | ⟨start, rfl, same⟩
    · exact ⟨_, _, .stop .., .enter short found later⟩
    · obtain ⟨left, place, arrives, leads⟩ := ih same.symm
      exact ⟨left, place, .enter short found arrives, leads⟩
  | chase short found on some_byte later ih =>
    rcases List.append_eq_cons_iff.mp whole with ⟨rfl, rfl⟩ | ⟨start, rfl, same⟩
    · exact ⟨_, _, .stop .., .chase short found on some_byte later⟩
    · obtain ⟨left, place, arrives, leads⟩ := ih (by rw [same, List.append_assoc])
      exact ⟨left, place, .chase short found some_byte arrives, leads⟩
  | reach short found other last =>
    rcases List.append_eq_cons_iff.mp whole with ⟨rfl, rfl⟩ | ⟨start, rfl, same⟩
    · exact ⟨_, _, .stop .., .reach short found other last⟩
    · obtain ⟨-, rfl⟩ := List.append_eq_nil_iff.mp same.symm
      obtain ⟨step, member, -⟩ := more
      cases member
  | free short missing parent slashes =>
    rcases List.append_eq_cons_iff.mp whole with ⟨rfl, rfl⟩ | ⟨start, rfl, same⟩
    · exact ⟨_, _, .stop .., .free short missing parent slashes⟩
    · obtain ⟨step, member, other⟩ := more
      exact absurd (slashes step (by simp [same, member])) other

theorem Arrives.occupied (arrives : tree.Arrives links directory steps left place) :
    Leads tree true links directory steps (.occupied place .directory) := by
  induction arrives with
  | stop => exact .stop ..
  | slash _ ih => exact .slash ih
  | here _ ih => exact .here ih
  | up _ ih => exact .up ih
  | enter short found _ ih => exact .enter short found ih
  | chase short found some_byte _ ih => exact .chase short found (Or.inr rfl) some_byte ih

theorem Leads.arrives (leads : Leads tree true links directory steps (.occupied place .directory)) :
    ∃ left, tree.Arrives links directory steps left place := by
  generalize same : Place.occupied place .directory = goal at leads
  induction leads with
  | stop =>
    cases same
    exact ⟨_, .stop ..⟩
  | slash _ ih => exact (ih same).imp fun _ arrives => .slash arrives
  | here _ ih => exact (ih same).imp fun _ arrives => .here arrives
  | up _ ih => exact (ih same).imp fun _ arrives => .up arrives
  | enter short found _ ih => exact (ih same).imp fun _ arrives => .enter short found arrives
  | chase short found _ some_byte _ ih =>
    exact (ih same).imp fun _ arrives => .chase short found some_byte arrives
  | reach short found other last =>
    cases same
    exact absurd rfl other
  | free => cases same

theorem Arrives.place_unique {left' : Nat} {place' : Location}
    (arrives : tree.Arrives links directory steps left place)
    (arrives' : tree.Arrives links directory steps left' place') : place = place' := by
  have found := travel_eq_ok_iff.mpr arrives.occupied
  rw [travel_eq_ok_iff.mpr arrives'.occupied] at found
  cases found
  rfl

/-- A path that leads to an entry does so also when its last link is not followed. -/
theorem Leads.exists_unfollowed {location : Location} {entry : Entry}
    (leads : Leads tree true links directory steps (.occupied location entry)) :
    ∃ location entry, Leads tree false links directory steps (.occupied location entry) := by
  generalize same : Place.occupied location entry = goal at leads
  induction leads with
  | stop => exact ⟨_, _, .stop ..⟩
  | slash _ ih =>
    obtain ⟨location, entry, leads⟩ := ih same
    exact ⟨location, entry, .slash leads⟩
  | here _ ih =>
    obtain ⟨location, entry, leads⟩ := ih same
    exact ⟨location, entry, .here leads⟩
  | up _ ih =>
    obtain ⟨location, entry, leads⟩ := ih same
    exact ⟨location, entry, .up leads⟩
  | enter short found _ ih =>
    obtain ⟨location, entry, leads⟩ := ih same
    exact ⟨location, entry, .enter short found leads⟩
  | @chase links directory name target rest goal short found on some_byte _ ih =>
    by_cases last : rest = []
    · subst last
      exact ⟨_, _, .reach short found (by simp) fun _ _ => rfl⟩
    · obtain ⟨location, entry, leads⟩ := ih same
      exact ⟨location, entry, .chase short found (Or.inl last) some_byte leads⟩
  | reach short found other _ => exact ⟨_, _, .reach short found other fun _ _ => rfl⟩
  | free => cases same

/-- Whether a step counts: slashes and steps to the same directory do not. -/
def Step.counts : Step → Bool
  | .slash => false
  | .here => false
  | _ => true

private theorem Arrives.fillers {start : List Step} (idle : ∀ step ∈ start, step.counts = false)
    (arrives : tree.Arrives links directory rest left place) :
    tree.Arrives links directory (start ++ rest) left place := by
  induction start with
  | nil => exact arrives
  | cons step start ih =>
    have later := ih fun other member => idle other (List.mem_cons_of_mem _ member)
    cases step with
    | slash => exact .slash later
    | here => exact .here later
    | up => exact absurd (idle .up (by simp)) (by decide)
    | name name => exact absurd (idle (.name name) (by simp)) (by simp [Step.counts])

/-- Only the steps that count matter for where a start arrives. -/
theorem Arrives.congr {others : List Step} (arrives : tree.Arrives links directory steps left place)
    (same : steps.filter Step.counts = others.filter Step.counts) :
    tree.Arrives links directory others left place := by
  have split_at {step : Step} {rest others : List Step} (counted : step.counts = true)
      (same : (step :: rest).filter Step.counts = others.filter Step.counts) :
      ∃ start later, others = start ++ step :: later ∧ (∀ step ∈ start, step.counts = false) ∧
        rest.filter Step.counts = later.filter Step.counts := by
    rw [List.filter_cons_of_pos counted] at same
    obtain ⟨start, later, whole, idle, -, rest⟩ := List.filter_eq_cons_iff.mp same.symm
    exact ⟨start, later, whole, fun step member => Bool.eq_false_iff.mpr (idle step member), rest.symm⟩
  induction arrives generalizing others with
  | stop links directory =>
    have idle : ∀ step ∈ others, step.counts = false := fun step member =>
      Bool.eq_false_iff.mpr (List.filter_eq_nil_iff.mp same.symm step member)
    have alone : tree.Arrives links directory [] links directory := .stop links directory
    have whole := Arrives.fillers idle alone
    rwa [List.append_nil] at whole
  | slash _ ih => exact ih same
  | here _ ih => exact ih same
  | up _ ih =>
    obtain ⟨start, later, rfl, idle, rest⟩ := split_at rfl same
    exact .fillers idle (.up (ih rest))
  | enter short found _ ih =>
    obtain ⟨start, later, rfl, idle, rest⟩ := split_at rfl same
    exact .fillers idle (.enter short found (ih rest))
  | chase short found some_byte _ ih =>
    obtain ⟨start, later, rfl, idle, rest⟩ := split_at rfl same
    refine .fillers idle (.chase short found some_byte (ih ?_))
    rw [List.filter_append, List.filter_append, rest]

theorem Arrives.trans {middle : Location} {between : Nat}
    (arrives : tree.Arrives links directory steps between middle)
    (further : tree.Arrives between middle rest left place) :
    tree.Arrives links directory (steps ++ rest) left place := by
  induction arrives with
  | stop => exact further
  | slash _ ih => exact .slash (ih further)
  | here _ ih => exact .here (ih further)
  | up _ ih => exact .up (ih further)
  | enter short found _ ih => exact .enter short found (ih further)
  | chase short found some_byte _ ih =>
    have later := ih further
    rw [List.append_assoc] at later
    exact .chase short found some_byte later

section Components

def Step.ofComponent? : Component → Option Step
  | .root => none
  | .current => none
  | .parent => some .up
  | .name bytes => some (.name bytes)

theorem Step.of_eq_name {part bytes : Bytes} (same : Step.of part = .name bytes) :
    bytes = part ∧ part ≠ [] ∧ part ≠ [Bytes.dot] ∧ part ≠ [Bytes.dot, Bytes.dot] := by
  unfold Step.of at same
  split at same
  · cases same
  · rename_i some_byte
    split at same
    · cases same
    · rename_i not_dot
      split at same
      · cases same
      · rename_i not_dots
        cases same
        exact ⟨rfl, by simpa using some_byte, not_dot, not_dots⟩

theorem Step.of_ne_slash {part : Bytes} (some_byte : part ≠ []) : Step.of part ≠ .slash := by
  unfold Step.of
  rw [if_neg (by simpa using some_byte)]
  split
  · simp
  · split <;> simp

def trail (components : List Component) : List Step := components.filterMap Step.ofComponent?

private theorem filter_step (part : Bytes) :
    [Step.of part].filter Step.counts = trail (Path.component? part).toList := by
  unfold Step.of Path.component? Path.isFiller
  by_cases empty : part = []
  · simp [empty, Step.counts, trail]
  · by_cases dot : part = [Bytes.dot]
    · simp [dot, Step.counts, trail]
    · by_cases dots : part = [Bytes.dot, Bytes.dot]
      · simp [dots, Step.counts, trail, Step.ofComponent?]
      · simp [empty, dot, dots, Step.counts, trail, Step.ofComponent?]

theorem filter_steps (path : Path) :
    (FileTree.steps path).filter Step.counts = trail path.components := by
  have counted (parts : List Bytes) :
      (parts.map Step.of).filter Step.counts = trail (parts.filterMap Path.component?) := by
    induction parts with
    | nil => rfl
    | cons part rest ih =>
      rw [List.map_cons, ← List.singleton_append, List.filter_append, ih, filter_step]
      rw [trail, trail, ← List.filterMap_append]
      cases found : Path.component? part <;> simp [trail, List.filterMap_cons, found]
  rw [FileTree.steps, counted, Path.components_parts]
  split
  · rfl
  · split <;> rfl

theorem origin_of_append (directory : Location) {start path : Path} {more : List Component}
    (some_byte : start.spelling ≠ []) (whole : path.components = start.components ++ more) :
    origin directory path = origin directory start := by
  have absolute : path.isAbsolute = start.isAbsolute := by
    rw [Bool.eq_iff_iff, Path.isAbsolute_iff, Path.isAbsolute_iff, whole,
      List.head?_append_of_ne_nil]
    rwa [Ne, Path.components_eq_nil_iff]
  rw [origin, origin, absolute]

theorem exists_steps_endsIn {path directory : Path} {stretch : Bytes}
    (ends : path.EndsIn directory stretch) :
    ∃ before, FileTree.steps path = before ++ [Step.of stretch] ∧
      before.filter Step.counts = trail directory.components := by
  have alone : Separated.parts Bytes.slash stretch = [stretch] := by
    rw [Separated.parts, Separated.cut_of_not_mem _ _ ends.plain]
  rcases ends.opened with empty | ⟨before, closed⟩
  · refine ⟨[], ?_, ?_⟩
    · rw [FileTree.steps, ends.spelled, empty, List.nil_append, alone]
      rfl
    · rw [(Path.components_eq_nil_iff directory).mpr empty]
      rfl
  · refine ⟨(Separated.parts Bytes.slash before).map .of, ?_, ?_⟩
    · rw [FileTree.steps, ends.spelled, closed, List.append_assoc, List.singleton_append,
        Separated.parts_append, alone, List.map_append]
      rfl
    · rw [← filter_steps, FileTree.steps, closed, Separated.parts_append, List.map_append,
        List.filter_append, Separated.parts_nil]
      exact (List.append_nil _).symm

end Components

end LocaleFamilies.FileTree
