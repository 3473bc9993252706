import LocaleFamilies.Path.Join
import LocaleFamilies.Path.Parts
import Mathlib.Data.List.Induction

/-! Components read off a spelling from its end. Every spelling is an open one, empty or closed by a
slash, with a last stretch behind it, and the stretch adds at most one component. From this follow
the components of joined paths and of the parent of a path. -/
namespace LocaleFamilies.Path

/-- The components of a directory with one more stretch behind it. A dot counts only where nothing
stands before it. -/
def lengthen (directory : List Component) (stretch : Bytes) : List Component :=
  if directory = [] ∧ stretch = [Bytes.dot] then [.current]
  else directory ++ (component? stretch).toList

/-- A spelling that a stretch may follow directly. -/
def IsOpen (path : Path) : Prop :=
  path.spelling = [] ∨ ∃ before, path.spelling = before ++ [Bytes.slash]

/-- A spelling that is made of an open one and a last stretch. -/
structure EndsIn (path directory : Path) (stretch : Bytes) : Prop where
  opened : directory.IsOpen
  plain : Bytes.slash ∉ stretch
  some_byte : stretch ≠ []
  spelled : path.spelling = directory.spelling ++ stretch

/-- A spelling without a slash at its end, save for the root. -/
def IsTidy (path : Path) : Prop :=
  path.spelling = [] ∨ path.spelling = [Bytes.slash] ∨
    ∃ directory stretch, path.EndsIn directory stretch

/-- A spelling without fillers at its end, save for a dot that stands alone. -/
def IsTrim (path : Path) : Prop :=
  path.spelling = [] ∨ path.spelling = [Bytes.slash] ∨ path.spelling = [Bytes.dot] ∨
    ∃ directory stretch, path.EndsIn directory stretch ∧ isFiller stretch = false

private def openingComponents (first : Bytes) (body : List Bytes) : List Component :=
  if first = [] then (if body = [] then [] else [.root])
  else if first = [Bytes.dot] then [.current] else (component? first).toList

private theorem components_cut (path : Path) :
    path.components = openingComponents (Separated.cut Bytes.slash path.spelling).1
        (Separated.cut Bytes.slash path.spelling).2 ++
      (Separated.cut Bytes.slash path.spelling).2.filterMap component? := by
  unfold components anatomy Anatomy.components openingComponents
  rcases Separated.cut Bytes.slash path.spelling with ⟨first, body⟩
  cases first with
  | nil => cases body <;> simp [Lead.components]
  | cons byte rest =>
    by_cases dotted : byte :: rest = [Bytes.dot]
    · simp [dotted, Lead.components]
    · simp only [dotted, if_false, reduceCtorEq, Lead.components, List.nil_append,
        List.filterMap_cons]
      cases component? (byte :: rest) <;> simp

@[simp] theorem component?_nil : component? [] = none := rfl

@[simp] theorem component?_dot : component? [Bytes.dot] = none := rfl

theorem component?_name {stretch : Bytes} (some_byte : stretch ≠ []) (not_dot : stretch ≠ [Bytes.dot])
    (not_dots : stretch ≠ [Bytes.dot, Bytes.dot]) : component? stretch = some (.name stretch) := by
  simp [component?, isFiller, some_byte, not_dot, not_dots]

theorem component?_eq_name_iff (stretch name : Bytes) :
    component? stretch = some (.name name) ↔
      stretch = name ∧ stretch ≠ [] ∧ stretch ≠ [Bytes.dot] ∧ stretch ≠ [Bytes.dot, Bytes.dot] := by
  constructor
  · intro named
    unfold component? at named
    split at named
    · cases named
    · rename_i kept
      simp only [isFiller, Bool.or_eq_true, List.isEmpty_iff, beq_iff_eq, not_or] at kept
      split at named
      · cases named
      · rename_i not_dots
        cases named
        exact ⟨rfl, kept.1, kept.2, not_dots⟩
  · rintro ⟨rfl, some_byte, not_dot, not_dots⟩
    exact component?_name some_byte not_dot not_dots

theorem component?_eq_none_iff (stretch : Bytes) :
    component? stretch = none ↔ isFiller stretch = true := by
  unfold component?
  split <;> rename_i filler
  · simp [filler]
  · split <;> simp [filler]

theorem component?_counts {stretch : Bytes} {component : Component}
    (found : component? stretch = some component) :
    component = .parent ∨ ∃ name, component = .name name := by
  unfold component? at found
  split at found
  · cases found
  · split at found
    · exact Or.inl (Option.some.inj found).symm
    · exact Or.inr ⟨stretch, (Option.some.inj found).symm⟩

theorem lengthen_name {directory : List Component} {stretch : Bytes} (some_byte : stretch ≠ [])
    (not_dot : stretch ≠ [Bytes.dot]) (not_dots : stretch ≠ [Bytes.dot, Bytes.dot]) :
    lengthen directory stretch = directory ++ [.name stretch] := by
  rw [lengthen, if_neg (fun both => not_dot both.2), component?_name some_byte not_dot not_dots]
  rfl

theorem lengthen_ne_nil {directory : List Component} {stretch : Bytes} (some_byte : stretch ≠ []) :
    lengthen directory stretch ≠ [] := by
  unfold lengthen
  split
  · simp
  · rename_i counts
    intro none
    obtain ⟨top, skipped⟩ := List.append_eq_nil_iff.mp none
    have filler := (component?_eq_none_iff stretch).mp (by simpa using skipped)
    simp only [isFiller, Bool.or_eq_true, List.isEmpty_iff, beq_iff_eq, some_byte, false_or]
      at filler
    exact counts ⟨top, filler⟩

theorem eq_of_lengthen_eq {directory before : List Component} {stretch name : Bytes}
    (same : lengthen directory stretch = before ++ [.name name]) (grown : before.length = directory.length) :
    stretch = name := by
  unfold lengthen at same
  split at same
  · rename_i top
    rw [top.1, List.length_nil, List.length_eq_zero_iff] at grown
    simp [grown] at same
  · cases counted : component? stretch with
    | none =>
      have sizes := congrArg List.length same
      simp [counted, grown] at sizes
    | some component =>
      rw [counted, Option.toList_some] at same
      obtain ⟨-, last⟩ := List.append_inj' same rfl
      simp only [List.cons.injEq, and_true] at last
      rw [last] at counted
      exact ((component?_eq_name_iff _ _).mp counted).1

/-- The components of a path are those of its stretches, behind its lead. -/
theorem components_parts (path : Path) :
    path.components =
      (if path.isAbsolute then [.root]
        else if (Separated.cut Bytes.slash path.spelling).1 = [Bytes.dot] then [.current] else []) ++
        (Separated.parts Bytes.slash path.spelling).filterMap component? := by
  rw [components_cut, Separated.parts]
  obtain ⟨spelling⟩ := path
  cases spelling with
  | nil => rfl
  | cons byte rest =>
    by_cases slashed : byte = Bytes.slash
    · subst slashed
      rfl
    · have first : (Separated.cut Bytes.slash (byte :: rest)).1 ≠ [] := by
        simp [Separated.cut, slashed]
      have relative : (Path.mk (byte :: rest)).isAbsolute = false := by
        simpa [isAbsolute] using slashed
      rw [openingComponents, if_neg first, relative, if_neg Bool.false_ne_true]
      by_cases dotted : (Separated.cut Bytes.slash (byte :: rest)).1 = [Bytes.dot]
      · rw [dotted, List.filterMap_cons_none component?_dot]
        simp
      · rw [if_neg dotted, if_neg dotted]
        cases found : component? (Separated.cut Bytes.slash (byte :: rest)).1 <;> simp [found]

theorem isAbsolute_iff (path : Path) :
    path.isAbsolute = true ↔ path.components.head? = some .root := by
  have unrooted (parts : List Bytes) : Component.root ∉ parts.filterMap component? := by
    intro member
    obtain ⟨part, -, found⟩ := List.mem_filterMap.mp member
    rcases component?_counts found with step | ⟨name, step⟩ <;> cases step
  rw [components_parts]
  split
  · rename_i absolute
    exact iff_of_true absolute rfl
  · rename_i relative
    refine iff_of_false relative ?_
    split
    · rintro ⟨⟩
    · exact fun first => unrooted _ (List.mem_of_head? first)

theorem name_of_mem_components {path : Path} {name : Bytes}
    (member : Component.name name ∈ path.components) :
    Bytes.slash ∉ name ∧ name ≠ [] ∧ name ≠ [Bytes.dot] ∧ name ≠ [Bytes.dot, Bytes.dot] := by
  have free := Separated.separator_not_mem Bytes.slash path.spelling
  simp only [Separated.parts, List.mem_cons, forall_eq_or_imp] at free
  have counted : ∃ part, Bytes.slash ∉ part ∧ component? part = some (.name name) := by
    rw [components_cut, List.mem_append] at member
    rcases member with first | later
    · unfold openingComponents at first
      split at first
      · split at first <;> simp at first
      · split at first
        · simp at first
        · exact ⟨_, free.1, by simpa using first⟩
    · obtain ⟨part, inside, named⟩ := List.mem_filterMap.mp later
      exact ⟨part, free.2 part inside, named⟩
  obtain ⟨part, unslashed, named⟩ := counted
  obtain ⟨rfl, rest⟩ := (component?_eq_name_iff part name).mp named
  exact ⟨unslashed, rest⟩

theorem components_slash (before after : Bytes) :
    components ⟨before ++ Bytes.slash :: after⟩ = components ⟨before ++ [Bytes.slash]⟩ ++
      (Separated.parts Bytes.slash after).filterMap component? := by
  have whole := Separated.parts_append Bytes.slash before after
  have start := Separated.parts_append Bytes.slash before []
  simp only [Separated.parts, List.cons_append, List.cons.injEq, Separated.cut] at whole start
  rw [components_cut, components_cut, whole.1, whole.2, start.1, start.2]
  simp [openingComponents, Separated.parts, List.filterMap_append, List.filterMap_cons]

theorem components_closed (before : Bytes) :
    components ⟨before ++ [Bytes.slash]⟩ =
      if before = [] then [.root] else components ⟨before⟩ := by
  by_cases empty : before = []
  · subst empty
    rfl
  · rw [if_neg empty, components_cut, components_cut]
    have closed := Separated.parts_append Bytes.slash before []
    have whole := Separated.join_parts Bytes.slash before
    simp only [Separated.parts, List.cons_append, List.cons.injEq, Separated.cut] at closed whole
    rw [closed.1, closed.2]
    have counted : openingComponents (Separated.cut Bytes.slash before).1
        ((Separated.cut Bytes.slash before).2 ++ [[]]) =
        openingComponents (Separated.cut Bytes.slash before).1 (Separated.cut Bytes.slash before).2 := by
      by_cases first : (Separated.cut Bytes.slash before).1 = []
      · have more : (Separated.cut Bytes.slash before).2 ≠ [] := by
          intro none
          rw [first, none] at whole
          exact empty whole.symm
        simp [openingComponents, first, more]
      · simp [openingComponents, first]
    rw [counted]
    simp [List.filterMap_append]

theorem components_stretch {stretch : Bytes} (plain : Bytes.slash ∉ stretch) :
    components ⟨stretch⟩ = lengthen [] stretch := by
  rw [components_cut, Separated.cut_of_not_mem _ _ plain]
  by_cases empty : stretch = []
  · simp [openingComponents, lengthen, empty]
  · by_cases dotted : stretch = [Bytes.dot] <;> simp [openingComponents, lengthen, empty, dotted]

@[simp] theorem components_empty : components ⟨[]⟩ = [] := rfl

theorem components_eq_nil_iff (path : Path) : path.components = [] ↔ path.spelling = [] := by
  constructor
  · intro none
    rw [components_cut] at none
    have whole := Separated.join_parts Bytes.slash path.spelling
    obtain ⟨first, -⟩ := List.append_eq_nil_iff.mp none
    simp only [Separated.parts] at whole
    unfold openingComponents at first
    split at first
    · rename_i empty
      split at first
      · rename_i alone
        rw [empty, alone] at whole
        exact whole.symm
      · cases first
    · split at first
      · cases first
      · rename_i some_byte not_dot
        have kept : isFiller (Separated.cut Bytes.slash path.spelling).1 = true :=
          (component?_eq_none_iff _).mp (by simpa using first)
        simp [isFiller, some_byte, not_dot] at kept
  · intro empty
    rw [show path = ⟨[]⟩ by cases path; exact congrArg Path.mk empty]
    rfl

/-- A stretch behind an open spelling adds to its components. -/
theorem components_append {directory : Path} (opened : directory.IsOpen) {stretch : Bytes}
    (plain : Bytes.slash ∉ stretch) :
    components ⟨directory.spelling ++ stretch⟩ = lengthen directory.components stretch := by
  rcases opened with empty | ⟨before, spelled⟩
  · rw [(components_eq_nil_iff directory).mpr empty, empty]
    exact components_stretch plain
  · have some_component : directory.components ≠ [] := by
      rw [Ne, components_eq_nil_iff, spelled]
      simp
    have alone : Separated.parts Bytes.slash stretch = [stretch] := by
      simp [Separated.parts, Separated.cut_of_not_mem _ _ plain]
    rw [lengthen, if_neg (fun both => some_component both.1), spelled, List.append_assoc,
      List.singleton_append, components_slash, alone, ← spelled]
    cases found : component? stretch <;> simp [found]

theorem EndsIn.components {path directory : Path} {stretch : Bytes}
    (ends : path.EndsIn directory stretch) :
    path.components = lengthen directory.components stretch := by
  rw [← components_append ends.opened ends.plain, ← ends.spelled]

theorem exists_endsIn {stretch : Bytes} (some_byte : stretch ≠ []) (plain : Bytes.slash ∉ stretch)
    (before : Bytes) : ∃ directory last, EndsIn ⟨before ++ stretch⟩ directory last := by
  induction before using List.reverseRecOn generalizing stretch with
  | nil => exact ⟨⟨[]⟩, stretch, Or.inl rfl, plain, some_byte, rfl⟩
  | append_singleton before byte ih =>
    by_cases closed : byte = Bytes.slash
    · exact ⟨⟨before ++ [byte]⟩, stretch, Or.inr ⟨before, by rw [closed]⟩, plain, some_byte, rfl⟩
    · have longer := @ih (byte :: stretch) (by simp) (by simp [plain, Ne.symm closed])
      rwa [List.append_cons] at longer

theorem IsTrim.isTidy {path : Path} (trim : path.IsTrim) : path.IsTidy := by
  rcases trim with empty | root | dot | ⟨directory, stretch, ends, -⟩
  · exact Or.inl empty
  · exact Or.inr (Or.inl root)
  · exact Or.inr (Or.inr ⟨⟨[]⟩, [Bytes.dot], Or.inl rfl, by decide, by decide, dot⟩)
  · exact Or.inr (Or.inr ⟨directory, stretch, ends⟩)

/-- A path that a stretch can follow: closed by a slash unless it is empty or closed already. -/
def opened (path : Path) : Path :=
  if path.spelling.isEmpty || path.spelling.getLast? == some Bytes.slash then path
  else ⟨path.spelling ++ [Bytes.slash]⟩

theorem isOpen_opened (path : Path) : path.opened.IsOpen := by
  unfold opened
  split
  · rename_i ready
    simp only [Bool.or_eq_true, List.isEmpty_iff, beq_iff_eq] at ready
    rcases ready with empty | closed
    · exact Or.inl empty
    · exact Or.inr ((List.getLast?_eq_some_iff).mp closed)
  · exact Or.inr ⟨_, rfl⟩

theorem components_opened (path : Path) : path.opened.components = path.components := by
  unfold opened
  split
  · rfl
  · rename_i open_ended
    rw [components_closed, if_neg (by rintro empty; simp [empty] at open_ended)]

theorem join_of_relative (directory : Path) {path : Path} (relative : path.isAbsolute = false) :
    directory.join path = ⟨directory.opened.spelling ++ path.spelling⟩ := by
  unfold join opened
  rw [relative, if_neg Bool.false_ne_true]
  split <;> simp

theorem isAbsolute_of_not_mem {stretch : Bytes} (plain : Bytes.slash ∉ stretch) :
    isAbsolute ⟨stretch⟩ = false := by
  cases stretch with
  | nil => rfl
  | cons byte rest =>
    simp only [List.mem_cons, not_or] at plain
    simpa [isAbsolute] using Ne.symm plain.1

theorem join_eq_opened (directory : Path) {stretch : Bytes} (plain : Bytes.slash ∉ stretch) :
    directory.join ⟨stretch⟩ = ⟨directory.opened.spelling ++ stretch⟩ :=
  join_of_relative directory (isAbsolute_of_not_mem plain)

theorem endsIn_join (directory : Path) {stretch : Bytes} (some_byte : stretch ≠ [])
    (plain : Bytes.slash ∉ stretch) :
    (directory.join ⟨stretch⟩).EndsIn directory.opened stretch :=
  ⟨isOpen_opened directory, plain, some_byte, by rw [join_eq_opened directory plain]⟩

theorem components_join (directory : Path) {stretch : Bytes} (some_byte : stretch ≠ [])
    (plain : Bytes.slash ∉ stretch) :
    (directory.join ⟨stretch⟩).components = lengthen directory.components stretch := by
  rw [(endsIn_join directory some_byte plain).components, components_opened]

end LocaleFamilies.Path
