import LocaleFamilies.Path.Normal
import LocaleFamilies.Proofs.Path.Relative

/-! The shape of a normal form. It is the root with names below it, or some steps to the parent with names
behind them, and it is spelled without fillers, so its components are read back as they are. A name at the
end of a path stays at the end of its normal form. -/
namespace LocaleFamilies.Path

/-- Names below the root, or behind steps to the parent. -/
inductive IsNormal : List Component → Prop
  | rooted (names : List Bytes) : IsNormal (.root :: names.map .name)
  | relative (count : Nat) (names : List Bytes) :
    IsNormal (List.replicate count .parent ++ names.map .name)

section Settle

variable {components done : List Component}

theorem normalComponents_concat (components : List Component) (component : Component) :
    normalComponents (components ++ [component]) =
      (settle (normalComponents components).reverse component).reverse := by
  simp [normalComponents, List.foldl_append]

@[simp] theorem normalComponents_concat_name (components : List Component) (name : Bytes) :
    normalComponents (components ++ [.name name]) = normalComponents components ++ [.name name] := by
  simp [normalComponents_concat, settle]

theorem length_settle_le (done : List Component) (component : Component) :
    (settle done component).length ≤ done.length + 1 := by
  unfold settle
  split
  · exact Nat.le_succ _
  · split
    · simp only [List.length_cons]
      omega
    · exact Nat.le_succ _
    · exact Nat.le_refl _
  · exact Nat.le_refl _

theorem mem_of_mem_settle {component other : Component} (member : other ∈ settle done component) :
    other ∈ done ∨ other = component := by
  unfold settle at member
  split at member
  · exact Or.inl member
  · split at member
    · exact Or.inl (List.mem_cons_of_mem _ member)
    · exact Or.inl member
    · exact (List.mem_cons.mp member).symm
  · exact (List.mem_cons.mp member).symm

theorem mem_of_mem_normalComponents {component : Component}
    (member : component ∈ normalComponents components) : component ∈ components := by
  induction components using List.reverseRecOn with
  | nil => exact member
  | append_singleton components last ih =>
    rw [normalComponents_concat, List.mem_reverse] at member
    rw [List.mem_append, List.mem_singleton]
    exact (mem_of_mem_settle member).imp (fun kept => ih (List.mem_reverse.mp kept)) id

/-- A step to the parent, or a name, takes a normal sequence to a normal one. -/
theorem IsNormal.settle {component : Component} (normal : IsNormal components)
    (counts : component = .parent ∨ ∃ name, component = .name name) :
    IsNormal (settle components.reverse component).reverse := by
  rcases counts with rfl | ⟨name, rfl⟩
  · cases normal with
    | rooted names =>
      induction names using List.reverseRecOn with
      | nil => exact .rooted []
      | append_singleton names last _ =>
        simpa [Path.settle] using IsNormal.rooted names
    | relative count names =>
      induction names using List.reverseRecOn with
      | nil =>
        cases count with
        | zero => exact .relative 1 []
        | succ count =>
          rw [List.map_nil, List.append_nil, List.reverse_replicate]
          have more := IsNormal.relative (count + 2) []
          rwa [List.map_nil, List.append_nil, ← List.reverse_replicate] at more
      | append_singleton names last _ =>
        simpa [Path.settle] using IsNormal.relative count names
  · cases normal with
    | rooted names => simpa [Path.settle] using IsNormal.rooted (names ++ [name])
    | relative count names => simpa [Path.settle] using IsNormal.relative count (names ++ [name])

private theorem IsNormal.foldl (normal : IsNormal done.reverse)
    (counts : ∀ component ∈ components, component = .parent ∨ ∃ name, component = .name name) :
    IsNormal (components.foldl Path.settle done).reverse := by
  induction components generalizing done with
  | nil => exact normal
  | cons component rest ih =>
    have step := normal.settle (counts component List.mem_cons_self)
    rw [List.reverse_reverse] at step
    exact ih step fun other member => counts other (List.mem_cons_of_mem _ member)

end Settle

section Paths

variable (path : Path)

theorem isNormal_normalComponents : IsNormal (normalComponents path.components) := by
  have later : ∀ component ∈ path.components.tail, _ := fun component => of_mem_tail
  cases shape : path.components with
  | nil => exact .relative 0 []
  | cons first rest =>
    rw [shape, List.tail_cons] at later
    rw [normalComponents, List.foldl_cons]
    refine IsNormal.foldl ?_ later
    cases first with
    | root => exact .rooted []
    | current => exact .relative 0 []
    | parent => exact .relative 1 []
    | name bytes => exact .relative 0 [bytes]

/-- The stretches that a normal sequence is spelled with. -/
private theorem components_spelled (lead : Lead) {components : List Component}
    (counts : ∀ component ∈ components, component = .parent ∨ ∃ name, component = .name name)
    (valid : ∀ name, .name name ∈ components → Bytes.slash ∉ name ∧ name ≠ [] ∧
      name ≠ [Bytes.dot] ∧ name ≠ [Bytes.dot, Bytes.dot]) :
    (Anatomy.toPath ⟨lead, components.map Component.spelling⟩).components =
      lead.components ++ components := by
  have stretch {component : Component} (member : component ∈ components) :
      Bytes.slash ∉ component.spelling ∧ component.spelling ≠ [] ∧
        component.spelling ≠ [Bytes.dot] ∧ component? component.spelling = some component := by
    rcases counts component member with rfl | ⟨name, rfl⟩
    · decide
    · obtain ⟨unslashed, some_byte, not_dot, not_dots⟩ := valid name member
      exact ⟨unslashed, some_byte, not_dot, component?_name some_byte not_dot not_dots⟩
  have sound : Anatomy.IsSound ⟨lead, components.map Component.spelling⟩ := by
    refine ⟨fun part member => ?_, fun _ first member => ?_⟩
    · obtain ⟨component, inside, rfl⟩ := List.mem_map.mp member
      exact (stretch inside).1
    · obtain ⟨component, inside, rfl⟩ := List.mem_map.mp (List.mem_of_head? member)
      exact ⟨(stretch inside).2.1, (stretch inside).2.2.1⟩
  rw [components_toPath sound, Anatomy.components, List.filterMap_map]
  congr 1
  conv_rhs => rw [← List.filterMap_some (l := components)]
  exact List.filterMap_congr fun component member => (stretch member).2.2.2

private theorem ofComponents_unrooted {components : List Component}
    (unrooted : .root ∉ components) :
    ofComponents components = Anatomy.toPath ⟨.bare, components.map Component.spelling⟩ := by
  unfold ofComponents
  split
  · exact absurd List.mem_cons_self unrooted
  · rfl

/-- The normal form of a path has the normal sequence as its components. -/
theorem components_normalize : path.normalize.components = normalComponents path.components := by
  have valid {name : Bytes} (member : .name name ∈ normalComponents path.components) :=
    name_of_mem_components (mem_of_mem_normalComponents member)
  have normal := path.isNormal_normalComponents
  rw [normalize]
  generalize normalComponents path.components = components at normal valid
  cases normal with
  | rooted names =>
    exact components_spelled .root (by simp) fun name member =>
      valid (List.mem_cons_of_mem _ member)
  | relative count names =>
    rw [ofComponents_unrooted (by simp)]
    exact components_spelled .bare (by simp [or_imp, forall_and]) fun name => valid

end Paths

end LocaleFamilies.Path
