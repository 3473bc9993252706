import LocaleFamilies.Proofs.FileTree.Travel
import LocaleFamilies.Scan
import Mathlib.Data.List.Induction

/-! What a walk shows. It lists the directory that its start leads to and those below whose paths are
not too long, and shows every entry of a directory that it lists. A path to such an entry may be
spelled in another way, and leads to the same place. -/
namespace LocaleFamilies.FileTree

section Names

variable {tree : FileTree} {location : Location} {name : Bytes} {entry : Entry}

theorem get?_eq_some_iff_mem (inside : location ≠ []) :
    tree.get? location = some entry ↔ (location, entry) ∈ tree.entries.entries := by
  rw [get?, if_neg inside, SortedMap.get?_eq_some_iff]

theorem directory_of_get? (found : tree.get? (location ++ [name]) = some entry) :
    tree.get? location = some .directory ∧ isName name = true := by
  obtain ⟨named, above⟩ := tree.grounded _ _ ((get?_eq_some_iff_mem (by simp)).mp found)
  rw [List.dropLast_concat] at above
  constructor
  · rw [get?]
    split
    · rfl
    · rename_i below
      exact above.resolve_left below
  · simpa using named

theorem directory_of_get?_append {names : List Bytes}
    (found : tree.get? (location ++ names) = some .directory) :
    tree.get? location = some .directory ∧ ∀ name ∈ names, isName name = true := by
  induction names using List.reverseRecOn with
  | nil => exact ⟨by simpa using found, by simp⟩
  | append_singleton names name ih =>
    rw [← List.append_assoc] at found
    obtain ⟨above, named⟩ := directory_of_get? found
    obtain ⟨top, others⟩ := ih above
    refine ⟨top, fun other member => ?_⟩
    rcases List.mem_append.mp member with inner | last
    · exact others other inner
    · rw [List.mem_singleton.mp last]
      exact named

/-- What lies above an entry below a location is a directory, and the way to the entry is made of names. -/
theorem names_of_get? {way : List Bytes} (some_name : way ≠ [])
    (found : tree.get? (location ++ way) = some entry) :
    tree.get? (location ++ way.dropLast) = some .directory ∧ ∀ name ∈ way, isName name = true := by
  obtain ⟨names, last, rfl⟩ : ∃ names last, way = names ++ [last] :=
    ⟨_, _, (List.dropLast_append_getLast some_name).symm⟩
  rw [← List.append_assoc] at found
  obtain ⟨above, named⟩ := directory_of_get? found
  refine ⟨by rwa [List.dropLast_concat], fun name member => ?_⟩
  rcases List.mem_append.mp member with inner | final
  · exact (directory_of_get?_append above).2 name inner
  · rw [List.mem_singleton.mp final]
    exact named

theorem isName_iff : isName name = true ↔ name ≠ [] ∧ name ≠ [Bytes.dot] ∧
    name ≠ [Bytes.dot, Bytes.dot] ∧ Bytes.slash ∉ name ∧ name.length ≤ nameLimit := by
  simp [isName, and_assoc]

theorem components_join_name (path : Path) (named : isName name = true) :
    (path.join ⟨name⟩).components = path.components ++ [.name name] := by
  obtain ⟨some_byte, not_dot, not_dots, unslashed, -⟩ := isName_iff.mp named
  rw [Path.components_join path some_byte unslashed, Path.lengthen_name some_byte not_dot not_dots]

theorem descend_concat (start : Path) (names : List Bytes) (name : Bytes) :
    descend start (names ++ [name]) = (descend start names).join ⟨name⟩ := by
  rw [descend, List.foldl_append]
  rfl

theorem components_descend (start : Path) {names : List Bytes}
    (named : ∀ name ∈ names, isName name = true) :
    (descend start names).components = start.components ++ names.map .name := by
  induction names using List.reverseRecOn with
  | nil => simp [descend]
  | append_singleton names name ih =>
    rw [descend_concat, components_join_name _ (named name (by simp)),
      ih fun other member => named other (by simp [member])]
    simp

end Names

/-- A directory that a walk lists: where it is, and how the walk spells its path. -/
def Lists (tree : FileTree) (directory : Location) (start path : Path) (location : Location) : Prop :=
  ∃ top names, tree.entryAt directory true start = .ok (top, .directory) ∧
    location = top ++ names ∧ tree.get? location = some .directory ∧
    path = descend start names ∧ isTooLong path = false

section Entries

variable {tree : FileTree} {directory location top : Location} {start path : Path} {entry : Entry}
  {followed : Bool}

theorem lookup_eq_ok_iff {goal : Place} : tree.lookup directory followed path = .ok goal ↔
    path.spelling.length < pathLimit ∧ 0 ∉ path.spelling ∧ path.spelling ≠ [] ∧
      Leads tree followed linkLimit (origin directory path) (FileTree.steps path) goal := by
  rw [← travel_eq_ok_iff, lookup, resolve]
  by_cases zero : 0 ∈ path.spelling
  · simp [zero]
  by_cases long : path.spelling.length < pathLimit
  · by_cases empty : path.spelling = []
    · simp [empty, pathLimit]
    · simp [zero, Nat.not_le.mpr long, long, empty]
  · simp [zero, long, Nat.not_lt.mp long]

theorem entryAt_eq_ok_iff : tree.entryAt directory followed path = .ok (location, entry) ↔
    tree.lookup directory followed path = .ok (.occupied location entry) := by
  unfold entryAt
  cases tree.lookup directory followed path with
  | error fault => simp [bind, Except.bind]
  | ok goal => cases goal <;> simp [bind, Except.bind, pure, Except.pure, throw, throwThe, MonadExceptOf.throw]

theorem Leads.of_not_link {links : Nat} {steps : List Step}
    (leads : Leads tree false links directory steps (.occupied location entry))
    (not_link : ∀ target, entry ≠ .link target) :
    Leads tree true links directory steps (.occupied location entry) := by
  generalize same : Place.occupied location entry = goal at leads
  induction leads with
  | stop => exact .stop ..
  | slash _ ih => exact .slash (ih same)
  | here _ ih => exact .here (ih same)
  | up _ ih => exact .up (ih same)
  | enter short found _ ih => exact .enter short found (ih same)
  | chase short found _ some_byte _ ih => exact .chase short found (Or.inr rfl) some_byte (ih same)
  | reach short found other _ =>
    cases same
    exact .reach short found other fun target same => absurd same (not_link target)
  | free => cases same

theorem entryAt_of_not_link (unfollowed : tree.entryAt directory false path = .ok (location, entry))
    (not_link : ∀ target, entry ≠ .link target) :
    tree.entryAt directory true path = .ok (location, entry) := by
  obtain ⟨short, no_zero, some_byte, leads⟩ := lookup_eq_ok_iff.mp (entryAt_eq_ok_iff.mp unfollowed)
  exact entryAt_eq_ok_iff.mpr
    (lookup_eq_ok_iff.mpr ⟨short, no_zero, some_byte, leads.of_not_link not_link⟩)

theorem exists_entryAt_unfollowed (found : tree.entryAt directory true path = .ok (location, entry)) :
    ∃ location entry, tree.entryAt directory false path = .ok (location, entry) := by
  obtain ⟨short, no_zero, some_byte, leads⟩ := lookup_eq_ok_iff.mp (entryAt_eq_ok_iff.mp found)
  obtain ⟨location, entry, leads⟩ := leads.exists_unfollowed
  exact ⟨location, entry, entryAt_eq_ok_iff.mpr
    (lookup_eq_ok_iff.mpr ⟨short, no_zero, some_byte, leads⟩)⟩

theorem hasEntry_iff : tree.hasEntry directory path = true ↔
    ∃ location entry, tree.entryAt directory true path = .ok (location, entry) := by
  unfold hasEntry
  cases tree.entryAt directory true path with
  | error fault => simp [Except.isOk, Except.toBool]
  | ok both => exact iff_of_true rfl ⟨both.1, both.2, rfl⟩

/-- The visits of a directory that exists: what it is itself, and what lies below where it leads to. -/
theorem visits_eq {held : Entry}
    (unfollowed : tree.entryAt directory false start = .ok (location, entry))
    (followed : tree.entryAt directory true start = .ok (top, held)) :
    Scan.visits tree directory start =
      .found start entry :: if held = .directory then tree.visitsBelow top start else [] := by
  rw [Scan.visits, if_pos (hasEntry_iff.mpr ⟨top, held, followed⟩), walk, unfollowed]
  by_cases linked : ∃ target, entry = .link target
  · obtain ⟨target, rfl⟩ := linked
    simp only [followed]
    cases held <;> simp
  · have same := entryAt_of_not_link unfollowed fun target same => linked ⟨target, same⟩
    rw [followed] at same
    cases same
    cases entry with
    | link target => exact absurd ⟨target, rfl⟩ linked
    | _ => simp

theorem mem_visitsBelow_iff {seen : Visit} : seen ∈ tree.visitsBelow top start ↔
    ∃ names name entry, tree.get? (top ++ names ++ [name]) = some entry ∧
      isTooLong (descend start names) = false ∧
        seen ∈ visit ((descend start names).join ⟨name⟩) entry := by
  simp only [visitsBelow, List.mem_flatMap]
  constructor
  · rintro ⟨⟨location, entry⟩, member, shown⟩
    split at shown
    · rename_i below
      simp only [Bool.and_eq_true, List.isPrefixOf_iff_prefix, decide_eq_true_eq] at below
      obtain ⟨⟨way, rfl⟩, longer⟩ := below
      obtain ⟨names, name, rfl⟩ : ∃ names name, way = names ++ [name] := by
        rw [List.length_append, Nat.lt_add_right_iff_pos, List.length_pos_iff] at longer
        exact ⟨way.dropLast, way.getLast longer, (List.dropLast_append_getLast longer).symm⟩
      simp only [List.drop_left, List.dropLast_concat] at shown
      split at shown
      · cases shown
      · rename_i short
        refine ⟨names, name, entry, ?_, by simpa using short, descend_concat start names name ▸ shown⟩
        rw [List.append_assoc]
        exact (get?_eq_some_iff_mem (by simp)).mpr member
    · cases shown
  · rintro ⟨names, name, entry, held, short, shown⟩
    rw [List.append_assoc] at held
    refine ⟨(top ++ (names ++ [name]), entry), (get?_eq_some_iff_mem (by simp)).mp held, ?_⟩
    have below : (top.isPrefixOf (top ++ (names ++ [name])) &&
        decide (top.length < (top ++ (names ++ [name])).length)) = true := by
      simp
    simp only [below, if_true, List.drop_left, List.dropLast_concat, short]
    exact (descend_concat start names name).symm ▸ shown

theorem found_mem_visitsBelow_iff :
    .found path entry ∈ tree.visitsBelow top start ↔ ∃ names name,
      path = (descend start names).join ⟨name⟩ ∧ tree.get? (top ++ names ++ [name]) = some entry ∧
        isTooLong (descend start names) = false := by
  have shown {other : Path} {held : Entry} :
      .found path entry ∈ visit other held ↔ path = other ∧ entry = held := by
    unfold visit
    split <;> simp
  rw [mem_visitsBelow_iff]
  constructor
  · rintro ⟨names, name, held, here, short, seen⟩
    obtain ⟨rfl, rfl⟩ := shown.mp seen
    exact ⟨names, name, rfl, here, short⟩
  · rintro ⟨names, name, rfl, here, short⟩
    exact ⟨names, name, entry, here, short, shown.mpr ⟨rfl, rfl⟩⟩

private theorem arrives_names (left : Nat) {names : List Bytes}
    (held : tree.get? (top ++ names) = some .directory) :
    tree.Arrives left top (names.map .name) left (top ++ names) := by
  induction names generalizing top with
  | nil =>
    rw [List.append_nil]
    exact .stop ..
  | cons name rest ih =>
    obtain ⟨-, named⟩ := directory_of_get?_append held
    obtain ⟨-, -, -, -, short⟩ := isName_iff.mp (named name (by simp))
    rw [List.append_cons] at held
    have inside := ih held
    rw [← List.append_cons] at inside
    exact .enter short (directory_of_get?_append held).1 inside

theorem Lists.arrives (lists : tree.Lists directory start path location) :
    ∃ left, tree.Arrives linkLimit (origin directory path) (FileTree.steps path) left location := by
  obtain ⟨top, names, found, rfl, held, rfl, -⟩ := lists
  obtain ⟨-, -, some_byte, leads⟩ := lookup_eq_ok_iff.mp (entryAt_eq_ok_iff.mp found)
  obtain ⟨left, arrives⟩ := leads.arrives
  obtain ⟨-, named⟩ := directory_of_get?_append held
  have spelled := components_descend start named
  refine ⟨left, ?_⟩
  rw [origin_of_append directory some_byte spelled]
  refine (arrives.trans (arrives_names left held)).congr ?_
  rw [List.filter_append, filter_steps, filter_steps, spelled, trail, trail, List.filterMap_append]
  congr 1
  rw [List.filterMap_map, List.filter_eq_self.mpr]
  · simp [Function.comp_def, Step.ofComponent?]
  · simp [Step.counts]

theorem Lists.some_byte (lists : tree.Lists directory start path location) : path.spelling ≠ [] := by
  obtain ⟨top, names, found, rfl, held, rfl, -⟩ := lists
  obtain ⟨-, -, some_byte, -⟩ := lookup_eq_ok_iff.mp (entryAt_eq_ok_iff.mp found)
  rw [Ne, ← Path.components_eq_nil_iff] at some_byte ⊢
  rw [components_descend start (directory_of_get?_append held).2]
  simp [some_byte]

/-- A path to a file in a listed directory leads to it under any spelling. -/
theorem Lists.get?_of_entryAt {file : Path} {place : Location} {name content : Bytes}
    {runnable : Bool} (lists : tree.Lists directory start path location)
    (ends : ∃ opening stretch, file.EndsIn opening stretch)
    (inside : file.components = path.components ++ [.name name])
    (found : tree.entryAt directory false file = .ok (place, .file content runnable)) :
    tree.get? (location ++ [name]) = some (.file content runnable) := by
  obtain ⟨opening, stretch, ends⟩ := ends
  obtain ⟨-, -, -, leads⟩ := lookup_eq_ok_iff.mp (entryAt_eq_ok_iff.mp found)
  obtain ⟨before, spelled, counted⟩ := exists_steps_endsIn ends
  rw [spelled] at leads
  have more := Step.of_ne_slash ends.some_byte
  obtain ⟨left, middle, arrives, last⟩ := leads.exists_arrives ⟨_, List.mem_singleton_self _, more⟩
  obtain ⟨named, held⟩ : Step.of stretch = .name stretch ∧
      tree.get? (middle ++ [stretch]) = some (.file content runnable) := by
    cases step : Step.of stretch with
    | slash => exact absurd step more
    | here =>
      rw [step] at last
      cases last with | here later => cases later
    | up =>
      rw [step] at last
      cases last with | up later => cases later
    | name bytes =>
      obtain ⟨rfl, -⟩ := Step.of_eq_name step
      rw [step] at last
      refine ⟨rfl, ?_⟩
      cases last with
      | enter _ _ later => cases later
      | chase _ _ on => simp at on
      | reach _ held => exact held
  obtain ⟨-, some_byte, not_dot, not_dots⟩ := Step.of_eq_name named
  rw [ends.components, Path.lengthen_name some_byte not_dot not_dots] at inside
  obtain ⟨same, last⟩ := List.append_inj' inside rfl
  simp only [List.cons.injEq, Component.name.injEq, and_true] at last
  -- Both ways to the directory have the same components, so they arrive at the same place.
  obtain ⟨left', arrives'⟩ := lists.arrives
  have whole : file.components = path.components ++ [.name stretch] := by
    rw [ends.components, Path.lengthen_name some_byte not_dot not_dots, same]
  rw [origin_of_append directory lists.some_byte whole] at arrives
  rw [same, ← filter_steps] at counted
  rw [← last, ← (arrives.congr counted).place_unique arrives']
  exact held

/-- A walk shows every entry of a directory that it lists. -/
theorem Lists.found {name : Bytes} (lists : tree.Lists directory start path location)
    (held : tree.get? (location ++ [name]) = some entry) :
    .found (path.join ⟨name⟩) entry ∈ Scan.visits tree directory start := by
  obtain ⟨top, names, found, rfl, -, rfl, short⟩ := lists
  have below := found_mem_visitsBelow_iff.mpr ⟨names, name, rfl, held, short⟩
  obtain ⟨location, entry', unfollowed⟩ := exists_entryAt_unfollowed found
  rw [visits_eq unfollowed found, if_pos rfl]
  exact List.mem_cons_of_mem _ below

/-- A file that a walk shows is what the start leads to, or lies in a directory that the walk lists. -/
theorem lists_of_found {content : Bytes} {runnable : Bool}
    (found : .found path (.file content runnable) ∈ Scan.visits tree directory start) :
    (∃ top, tree.entryAt directory true start = .ok (top, .file content runnable)) ∨
      ∃ parent location name, tree.Lists directory start parent location ∧
        path = parent.join ⟨name⟩ ∧
          tree.get? (location ++ [name]) = some (.file content runnable) := by
  by_cases present : tree.hasEntry directory start = true
  swap
  · rw [Scan.visits, if_neg present] at found
    cases found
  obtain ⟨top, held, followed⟩ := hasEntry_iff.mp present
  obtain ⟨location, entry, unfollowed⟩ := exists_entryAt_unfollowed followed
  rw [visits_eq unfollowed followed, List.mem_cons] at found
  rcases found with itself | below
  · cases itself
    exact Or.inl ⟨location, entryAt_of_not_link unfollowed (by simp)⟩
  · split at below
    · rename_i opened
      subst opened
      obtain ⟨names, name, rfl, held, short⟩ := found_mem_visitsBelow_iff.mp below
      exact Or.inr ⟨_, _, name, ⟨top, names, followed, rfl, (directory_of_get? held).1, rfl, short⟩,
        rfl, held⟩
    · cases below

end Entries

end LocaleFamilies.FileTree
