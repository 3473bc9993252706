/-! Lists written with a separator between their parts. Cutting a list gives a first part and the
parts after each separator, so there is always at least one part; joining the parts gives the list
back, and no part holds the separator. -/
namespace LocaleFamilies.Separated

universe u
variable {α : Type u} [DecidableEq α]

def cut (separator : α) : List α → List α × List (List α)
  | [] => ([], [])
  | a :: rest =>
    let parts := cut separator rest
    if a = separator then ([], parts.1 :: parts.2) else (a :: parts.1, parts.2)

def parts (separator : α) (list : List α) : List (List α) :=
  (cut separator list).1 :: (cut separator list).2

def join (separator : α) : List (List α) → List α
  | [] => []
  | [part] => part
  | part :: next :: rest => part ++ separator :: join separator (next :: rest)

theorem parts_nil (separator : α) : parts separator [] = [[]] := rfl

theorem parts_separator (separator : α) (rest : List α) :
    parts separator (separator :: rest) = [] :: parts separator rest := by
  simp [parts, cut]

theorem parts_other (separator a : α) (rest : List α) (other : a ≠ separator) :
    parts separator (a :: rest) =
      (a :: (cut separator rest).1) :: (cut separator rest).2 := by
  simp [parts, cut, other]

theorem join_parts (separator : α) (list : List α) :
    join separator (parts separator list) = list := by
  induction list with
  | nil => rfl
  | cons a rest ih =>
    by_cases same : a = separator
    · subst same
      rw [parts_separator]
      simpa [join, parts] using ih
    · rw [parts_other _ _ _ same]
      simp only [parts] at ih
      cases more : (cut separator rest).2 with
      | nil => simpa [join, more] using ih
      | cons next others => simpa [join, more] using ih

theorem separator_not_mem (separator : α) (list : List α) :
    ∀ part ∈ parts separator list, separator ∉ part := by
  induction list with
  | nil => simp [parts, cut]
  | cons a rest ih =>
    by_cases same : a = separator
    · subst same
      rw [parts_separator]
      simpa using ih
    · rw [parts_other _ _ _ same]
      intro part member
      simp only [parts, List.mem_cons] at ih
      rcases List.mem_cons.mp member with rfl | member
      · have := ih _ (Or.inl rfl)
        simp [this, Ne.symm same]
      · exact ih part (Or.inr member)

theorem cut_of_not_mem (separator : α) (list : List α) (free : separator ∉ list) :
    cut separator list = (list, []) := by
  induction list with
  | nil => rfl
  | cons a rest ih =>
    simp only [List.mem_cons, not_or] at free
    simp [cut, ih free.2, Ne.symm free.1]

/-- Cutting a list at a separator that it holds cuts both sides on their own. -/
theorem parts_append (separator : α) (before after : List α) :
    parts separator (before ++ separator :: after) =
      parts separator before ++ parts separator after := by
  induction before with
  | nil => simp [parts_separator, parts_nil]
  | cons a rest ih =>
    by_cases same : a = separator
    · subst same
      simp [parts_separator, ih]
    · simp only [parts, List.cons_append, List.cons.injEq] at ih
      simp [parts, cut, same, ih.1, ih.2]

omit [DecidableEq α] in
theorem join_concat (separator : α) {parts : List (List α)} (some_part : parts ≠ [])
    (last : List α) : join separator (parts ++ [last]) = join separator parts ++ separator :: last := by
  induction parts with
  | nil => exact absurd rfl some_part
  | cons part rest ih =>
    cases rest with
    | nil => simp [join]
    | cons next others => simpa [join] using ih (by simp)

omit [DecidableEq α] in
theorem join_eq_intercalate (separator : α) (parts : List (List α)) :
    join separator parts = List.intercalate [separator] parts := by
  induction parts with
  | nil => rfl
  | cons part rest ih =>
    cases rest with
    | nil => simp [join]
    | cons next others => rw [join, ih, List.intercalate_cons_cons, List.append_assoc]; rfl

omit [DecidableEq α] in
theorem prefix_join (separator : α) (part : List α) (others : List (List α)) :
    part <+: join separator (part :: others) := by
  cases others with
  | nil => exact List.prefix_rfl
  | cons next others => exact List.prefix_append _ _

omit [DecidableEq α] in
theorem length_le_length_join (separator : α) (parts : List (List α)) :
    parts.length ≤ (join separator parts).length + 1 := by
  induction parts with
  | nil => exact Nat.zero_le _
  | cons part rest ih =>
    cases rest with
    | nil => simp
    | cons next others =>
      simp only [join, List.length_append, List.length_cons] at ih ⊢
      omega

omit [DecidableEq α] in
theorem length_le_of_mem (separator : α) {parts : List (List α)} {part : List α}
    (member : part ∈ parts) : part.length ≤ (join separator parts).length := by
  induction parts with
  | nil => cases member
  | cons first rest ih =>
    cases rest with
    | nil => exact Nat.le_of_eq (congrArg List.length (List.mem_singleton.mp member))
    | cons next others =>
      rw [join, List.length_append, List.length_cons]
      rcases List.mem_cons.mp member with rfl | later
      · omega
      · have := ih later
        omega

/-- Joining parts that are free of the separator can be undone. -/
theorem parts_join (separator : α) {parts : List (List α)} (some_part : parts ≠ [])
    (free : ∀ part ∈ parts, separator ∉ part) :
    Separated.parts separator (join separator parts) = parts := by
  induction parts with
  | nil => exact absurd rfl some_part
  | cons part rest ih =>
    have alone : Separated.parts separator part = [part] := by
      simp [Separated.parts, cut_of_not_mem separator part (free part (by simp))]
    cases rest with
    | nil => simpa [join] using alone
    | cons next others =>
      rw [join, parts_append, alone, ih (by simp) fun other member => free other (by simp [member])]
      rfl

section Spans

variable {test : α → Bool} {body rest : List α}

omit [DecidableEq α] in
theorem takeWhile_span (inside : ∀ a ∈ body, test a = true)
    (stops : ∀ a ∈ rest.head?, test a = false) : (body ++ rest).takeWhile test = body := by
  have none : rest.takeWhile test = [] := by cases rest <;> simp_all
  rw [List.takeWhile_append_of_pos inside, none, List.append_nil]

omit [DecidableEq α] in
theorem dropWhile_span (inside : ∀ a ∈ body, test a = true)
    (stops : ∀ a ∈ rest.head?, test a = false) : (body ++ rest).dropWhile test = rest := by
  have all : rest.dropWhile test = rest := by cases rest <;> simp_all
  rw [List.dropWhile_append_of_pos inside, all]

end Spans

end LocaleFamilies.Separated
