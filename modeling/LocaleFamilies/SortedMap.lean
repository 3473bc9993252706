/-! Finite maps kept as lists of entries in ascending key order. The order is part of what a map
shows: listings, reports and written files follow it, so it is an invariant of the type. -/
namespace LocaleFamilies

universe u v w

/-- Entries in strictly ascending key order: every key occurs once. -/
structure SortedMap (κ : Type u) (α : Type v) [Ord κ] where
  entries : List (κ × α)
  ascending : entries.Pairwise fun a b => compare a.1 b.1 = .lt

namespace SortedMap

variable {κ : Type u} {α : Type v} {β : Type w} [Ord κ]

def place (key : κ) (value : α) : List (κ × α) → List (κ × α)
  | [] => [(key, value)]
  | entry :: rest =>
    match compare key entry.1 with
    | .lt => (key, value) :: entry :: rest
    | .eq => (key, value) :: rest
    | .gt => entry :: place key value rest

theorem mem_place (key : κ) (value : α) (entries : List (κ × α)) (entry : κ × α)
    (member : entry ∈ place key value entries) : entry = (key, value) ∨ entry ∈ entries := by
  induction entries with
  | nil => simpa [place] using member
  | cons first rest ih =>
    simp only [place] at member
    split at member
    · simpa using member
    · rcases List.mem_cons.mp member with same | later
      · exact Or.inl same
      · exact Or.inr (List.mem_cons_of_mem _ later)
    · rcases List.mem_cons.mp member with same | later
      · exact Or.inr (same ▸ List.mem_cons_self)
      · rcases ih later with same | old
        · exact Or.inl same
        · exact Or.inr (List.mem_cons_of_mem _ old)

theorem place_ascending [Std.TransOrd κ] [Std.LawfulEqOrd κ] (key : κ) (value : α)
    (entries : List (κ × α)) (ascending : entries.Pairwise fun a b => compare a.1 b.1 = .lt) :
    (place key value entries).Pairwise fun a b => compare a.1 b.1 = .lt := by
  induction entries with
  | nil => simp [place]
  | cons first rest ih =>
    rw [List.pairwise_cons] at ascending
    simp only [place]
    split
    · rename_i before
      rw [List.pairwise_cons, List.pairwise_cons]
      refine ⟨fun later member => ?_, ascending⟩
      rcases List.mem_cons.mp member with same | later'
      · exact same ▸ before
      · exact Std.TransCmp.lt_trans before (ascending.1 _ later')
    · rename_i same
      have same := Std.LawfulEqOrd.eq_of_compare same
      rw [List.pairwise_cons]
      exact ⟨fun later member => same ▸ ascending.1 later member, ascending.2⟩
    · rename_i after
      rw [List.pairwise_cons]
      refine ⟨fun later member => ?_, ih ascending.2⟩
      rcases mem_place _ _ _ _ member with same | old
      · exact same ▸ Std.OrientedCmp.lt_of_gt after
      · exact ascending.1 later old

def empty : SortedMap κ α := ⟨[], List.Pairwise.nil⟩

instance : EmptyCollection (SortedMap κ α) := ⟨empty⟩
instance : Inhabited (SortedMap κ α) := ⟨empty⟩

/-- Adds an entry; the value of a key already present is replaced. -/
def insert [Std.TransOrd κ] [Std.LawfulEqOrd κ] (map : SortedMap κ α) (key : κ) (value : α) :
    SortedMap κ α :=
  ⟨place key value map.entries, place_ascending key value map.entries map.ascending⟩

def get? (map : SortedMap κ α) (key : κ) : Option α :=
  (map.entries.find? fun entry => compare key entry.1 == .eq).map (·.2)

def contains (map : SortedMap κ α) (key : κ) : Bool := (map.get? key).isSome

def filter (map : SortedMap κ α) (keep : κ × α → Bool) : SortedMap κ α :=
  ⟨map.entries.filter keep, map.ascending.filter keep⟩

def erase (map : SortedMap κ α) (key : κ) : SortedMap κ α :=
  map.filter fun entry => compare key entry.1 != .eq

def keys (map : SortedMap κ α) : List κ := map.entries.map (·.1)

def values (map : SortedMap κ α) : List α := map.entries.map (·.2)

def size (map : SortedMap κ α) : Nat := map.entries.length

def isEmpty (map : SortedMap κ α) : Bool := map.entries.isEmpty

/-- The entries of a list; of several with one key the last counts. -/
def ofList [Std.TransOrd κ] [Std.LawfulEqOrd κ] (list : List (κ × α)) : SortedMap κ α :=
  list.foldl (fun map entry => map.insert entry.1 entry.2) empty

@[ext] theorem ext {first second : SortedMap κ α} (same : first.entries = second.entries) :
    first = second := by
  cases first; cases second; cases same; rfl

instance [DecidableEq κ] [DecidableEq α] : DecidableEq (SortedMap κ α) := fun first second =>
  decidable_of_iff (first.entries = second.entries)
    ⟨ext, fun same => same ▸ rfl⟩

theorem get?_empty (key : κ) : (empty : SortedMap κ α).get? key = none := rfl

theorem mem_filter_iff (map : SortedMap κ α) (keep : κ × α → Bool) (entry : κ × α) :
    entry ∈ (map.filter keep).entries ↔ entry ∈ map.entries ∧ keep entry = true :=
  List.mem_filter

private theorem compare_self_eq [Std.LawfulEqOrd κ] (key : κ) : compare key key = .eq :=
  Std.ReflCmp.compare_self

section Lookup

variable [Std.TransOrd κ] [Std.LawfulEqOrd κ]

omit [Std.TransOrd κ] in
/-- Of the entries, a key has at most one. -/
theorem value_unique (map : SortedMap κ α) {key : κ} {first second : α}
    (one : (key, first) ∈ map.entries) (other : (key, second) ∈ map.entries) : first = second := by
  obtain ⟨entries, ascending⟩ := map
  simp only at one other
  induction entries with
  | nil => simp at one
  | cons entry rest ih =>
    rw [List.pairwise_cons] at ascending
    have apart : ∀ value, (key, value) ∈ rest → entry.1 ≠ key := fun value member same => by
      have less := ascending.1 _ member
      rw [same, compare_self_eq] at less
      cases less
    rcases List.mem_cons.mp one with here | later <;> rcases List.mem_cons.mp other with here' | later'
    · rw [← here] at here'
      exact (congrArg Prod.snd here').symm
    · exact absurd (by rw [← here]) (apart _ later')
    · exact absurd (by rw [← here']) (apart _ later)
    · exact ih ascending.2 later later'

omit [Std.TransOrd κ] in
theorem get?_eq_some_iff (map : SortedMap κ α) (key : κ) (value : α) :
    map.get? key = some value ↔ (key, value) ∈ map.entries := by
  unfold get?
  constructor
  · intro found
    obtain ⟨entry, search, rfl⟩ := Option.map_eq_some_iff.mp found
    have here := List.find?_some search
    have member := List.mem_of_find?_eq_some search
    have same : key = entry.1 := Std.LawfulEqOrd.eq_of_compare (by simpa using here)
    rw [same]
    exact member
  · intro member
    cases search : map.entries.find? fun entry => compare key entry.1 == .eq with
    | none =>
      have := List.find?_eq_none.mp search _ member
      simp at this
    | some entry =>
      have here := List.find?_some search
      have same : key = entry.1 := Std.LawfulEqOrd.eq_of_compare (by simpa using here)
      have found : (key, entry.2) ∈ map.entries := by
        rw [same]
        exact List.mem_of_find?_eq_some search
      simp [value_unique map member found]

theorem mem_place_iff (key : κ) (value : α) (entries : List (κ × α))
    (ascending : entries.Pairwise fun a b => compare a.1 b.1 = .lt) (entry : κ × α) :
    entry ∈ place key value entries ↔
      entry = (key, value) ∨ (entry ∈ entries ∧ entry.1 ≠ key) := by
  induction entries with
  | nil => simp [place]
  | cons first rest ih =>
    rw [List.pairwise_cons] at ascending
    have distinct : ∀ {a b : κ}, compare a b = .lt → b ≠ a := fun less same => by
      rw [same, compare_self_eq] at less
      cases less
    simp only [place]
    split
    · rename_i before
      have far : ∀ later ∈ rest, later.1 ≠ key := fun later member =>
        distinct (Std.TransCmp.lt_trans before (ascending.1 _ member))
      simp only [List.mem_cons]
      constructor
      · rintro (same | same | member)
        · exact Or.inl same
        · exact Or.inr ⟨Or.inl same, same ▸ distinct before⟩
        · exact Or.inr ⟨Or.inr member, far _ member⟩
      · rintro (same | ⟨old, _⟩)
        · exact Or.inl same
        · exact Or.inr old
    · rename_i same
      have same := Std.LawfulEqOrd.eq_of_compare same
      have far : ∀ later ∈ rest, later.1 ≠ key := fun later member =>
        same ▸ distinct (ascending.1 _ member)
      simp only [List.mem_cons]
      constructor
      · rintro (new | member)
        · exact Or.inl new
        · exact Or.inr ⟨Or.inr member, far _ member⟩
      · rintro (new | ⟨here | member, other⟩)
        · exact Or.inl new
        · exact absurd (here ▸ same.symm) other
        · exact Or.inr member
    · rename_i after
      have first_ne : first.1 ≠ key := Ne.symm (distinct (Std.OrientedCmp.lt_of_gt after))
      simp only [List.mem_cons, ih ascending.2]
      constructor
      · rintro (here | new | ⟨member, other⟩)
        · exact Or.inr ⟨Or.inl here, here ▸ first_ne⟩
        · exact Or.inl new
        · exact Or.inr ⟨Or.inr member, other⟩
      · rintro (new | ⟨here | member, other⟩)
        · exact Or.inr (Or.inl new)
        · exact Or.inl here
        · exact Or.inr (Or.inr ⟨member, other⟩)

theorem mem_insert_iff (map : SortedMap κ α) (key : κ) (value : α) (entry : κ × α) :
    entry ∈ (map.insert key value).entries ↔
      entry = (key, value) ∨ (entry ∈ map.entries ∧ entry.1 ≠ key) :=
  mem_place_iff key value map.entries map.ascending entry

theorem get?_insert_self (map : SortedMap κ α) (key : κ) (value : α) :
    (map.insert key value).get? key = some value := by
  simp [get?_eq_some_iff, mem_insert_iff]

theorem get?_insert_of_ne (map : SortedMap κ α) {key other : κ} (value : α)
    (different : other ≠ key) : (map.insert key value).get? other = map.get? other := by
  apply Option.ext
  intro found
  simp [get?_eq_some_iff, mem_insert_iff, different]

omit [Std.TransOrd κ] in
theorem mem_keys_iff (map : SortedMap κ α) (key : κ) :
    key ∈ map.keys ↔ ∃ value, map.get? key = some value := by
  simp [keys, get?_eq_some_iff]

omit [Std.TransOrd κ] in
theorem contains_iff (map : SortedMap κ α) (key : κ) :
    map.contains key = true ↔ key ∈ map.keys := by
  simp [contains, mem_keys_iff, Option.isSome_iff_exists]

omit [Std.TransOrd κ] in
theorem pairwise_key_ne (map : SortedMap κ α) :
    map.entries.Pairwise fun first second => first.1 ≠ second.1 := by
  refine map.ascending.imp fun less same => ?_
  rw [same, compare_self_eq] at less
  cases less

omit [Std.TransOrd κ] in
theorem nodup_keys (map : SortedMap κ α) : map.keys.Nodup := by
  rw [keys, List.Nodup, List.pairwise_map]
  exact map.pairwise_key_ne

omit [Std.TransOrd κ] in
theorem mem_erase_iff (map : SortedMap κ α) (key : κ) (entry : κ × α) :
    entry ∈ (map.erase key).entries ↔ entry ∈ map.entries ∧ entry.1 ≠ key := by
  rw [erase, mem_filter_iff, bne_iff_ne]
  refine and_congr_right fun _ => not_congr ⟨fun same => ?_, fun same => ?_⟩
  · exact (Std.LawfulEqOrd.eq_of_compare same).symm
  · rw [same, compare_self_eq]

omit [Std.TransOrd κ] in
theorem nodup_entries (map : SortedMap κ α) : map.entries.Nodup :=
  map.pairwise_key_ne.imp fun apart same => apart (congrArg Prod.fst same)

omit [Std.TransOrd κ] in
/-- The values are that of one key, if it is present, and those of the others. -/
theorem values_perm (map : SortedMap κ α) (key : κ) :
    map.values.Perm ((map.get? key).toList ++ (map.erase key).values) := by
  have apart (value : α) : (key, value) ∉ (map.erase key).entries := fun member =>
    ((mem_erase_iff map key _).mp member).2 rfl
  have split : map.entries.Perm
      ((map.get? key).toList.map (key, ·) ++ (map.erase key).entries) := by
    refine (List.perm_ext_iff_of_nodup map.nodup_entries ?_).mpr fun entry => ?_
    · refine List.nodup_append.mpr ⟨?_, nodup_entries _, ?_⟩
      · cases map.get? key <;> simp
      · rintro entry own other rest rfl
        obtain ⟨value, -, rfl⟩ := List.mem_map.mp own
        exact apart value rest
    · obtain ⟨name, value⟩ := entry
      rw [List.mem_append, List.mem_map, mem_erase_iff]
      constructor
      · intro member
        by_cases here : name = key
        · subst here
          refine Or.inl ⟨value, ?_, rfl⟩
          rw [(get?_eq_some_iff map name value).mpr member]
          exact List.mem_singleton_self value
        · exact Or.inr ⟨member, here⟩
      · rintro (⟨found, held, same⟩ | ⟨member, -⟩)
        · cases same
          exact (get?_eq_some_iff map key value).mp (Option.mem_toList.mp held)
        · exact member
  have values := split.map Prod.snd
  rwa [List.map_append, List.map_map, show Prod.snd ∘ (key, ·) = @id α from rfl,
    List.map_id] at values

omit [Std.TransOrd κ] in
theorem get?_erase_of_ne (map : SortedMap κ α) {key other : κ} (different : other ≠ key) :
    (map.erase key).get? other = map.get? other := by
  apply Option.ext
  intro found
  rw [get?_eq_some_iff, get?_eq_some_iff, erase, mem_filter_iff, and_iff_left]
  exact bne_iff_ne.mpr fun same => different (Std.LawfulEqOrd.eq_of_compare same).symm

omit [Std.TransOrd κ] in
theorem keys_erase [DecidableEq κ] (map : SortedMap κ α) (key : κ) :
    (map.erase key).keys = map.keys.filter fun other => other ≠ key := by
  unfold erase filter keys
  rw [List.filter_map]
  congr 1
  refine List.filter_congr fun entry _ => ?_
  have same : compare key entry.1 = .eq ↔ key = entry.1 :=
    ⟨Std.LawfulEqOrd.eq_of_compare, fun same => same ▸ compare_self_eq key⟩
  rw [Bool.eq_iff_iff, Function.comp_apply, decide_eq_true_iff, bne_iff_ne, Ne, same, eq_comm]

theorem values_insert_perm (map : SortedMap κ α) (key : κ) (value : α) :
    (map.insert key value).values.Perm (value :: (map.erase key).values) := by
  have others : ((map.insert key value).erase key).entries.Perm (map.erase key).entries := by
    refine (List.perm_ext_iff_of_nodup (nodup_entries _) (nodup_entries _)).mpr fun entry => ?_
    rw [mem_erase_iff, mem_erase_iff, mem_insert_iff]
    constructor
    · rintro ⟨rfl | old, other⟩
      · exact absurd rfl other
      · exact old
    · exact fun old => ⟨Or.inr old, old.2⟩
  have split := (map.insert key value).values_perm key
  rw [get?_insert_self] at split
  exact split.trans ((others.map Prod.snd).cons value)

/-- The keys of a map made from a list are those of the list. -/
theorem mem_keys_ofList_iff (list : List (κ × α)) (key : κ) :
    key ∈ (ofList list).keys ↔ key ∈ list.map (·.1) := by
  have grown (entries : List (κ × α)) (map : SortedMap κ α) :
      key ∈ (entries.foldl (fun map entry => map.insert entry.1 entry.2) map).keys ↔
        key ∈ map.keys ∨ key ∈ entries.map (·.1) := by
    induction entries generalizing map with
    | nil => simp
    | cons entry rest ih =>
      have inserted : key ∈ (map.insert entry.1 entry.2).keys ↔ key = entry.1 ∨ key ∈ map.keys := by
        by_cases here : key = entry.1
        · subst here
          simp [mem_keys_iff, get?_insert_self]
        · simp [mem_keys_iff, get?_insert_of_ne _ _ here, here]
      rw [List.foldl_cons, ih, inserted, List.map_cons, List.mem_cons, or_assoc, or_left_comm]
  rw [ofList, grown]
  exact or_iff_right (List.not_mem_nil)

/-- A map made from a list holds entries of the list. -/
theorem mem_of_mem_ofList {list : List (κ × α)} {entry : κ × α}
    (member : entry ∈ (ofList list).entries) : entry ∈ list := by
  have grown (entries : List (κ × α)) (map : SortedMap κ α)
      (member : entry ∈ (entries.foldl (fun map entry => map.insert entry.1 entry.2) map).entries) :
      entry ∈ map.entries ∨ entry ∈ entries := by
    induction entries generalizing map with
    | nil => exact Or.inl member
    | cons first rest ih =>
      rcases ih (map.insert first.1 first.2) member with old | later
      · rcases (mem_insert_iff map first.1 first.2 entry).mp old with rfl | ⟨old, -⟩
        · exact Or.inr List.mem_cons_self
        · exact Or.inl old
      · exact Or.inr (List.mem_cons_of_mem _ later)
  exact (grown list empty member).resolve_left List.not_mem_nil

/-- Lists in ascending order of some keys are the same if they have the same items. -/
private theorem eq_of_mem_iff {γ : Type w} (keyOf : γ → κ) {first second : List γ}
    (ascends : first.Pairwise fun a b => compare (keyOf a) (keyOf b) = .lt)
    (ascends' : second.Pairwise fun a b => compare (keyOf a) (keyOf b) = .lt)
    (same : ∀ item, item ∈ first ↔ item ∈ second) : first = second := by
  have distinct {list : List γ} (ascends : list.Pairwise fun a b => compare (keyOf a) (keyOf b) = .lt) :
      list.Nodup := by
    refine ascends.imp fun less same => ?_
    rw [same, compare_self_eq] at less
    cases less
  have shuffled := (List.perm_ext_iff_of_nodup (distinct ascends) (distinct ascends')).mpr same
  refine shuffled.eq_of_pairwise (fun item other _ _ less more => ?_) ascends ascends'
  rw [Std.OrientedCmp.gt_of_lt less] at more
  cases more

theorem keys_eq_of_mem_iff {first second : SortedMap κ α}
    (same : ∀ key, key ∈ first.keys ↔ key ∈ second.keys) : first.keys = second.keys :=
  eq_of_mem_iff id (List.pairwise_map.mpr first.ascending)
    (List.pairwise_map.mpr second.ascending) same

/-- A map is known by what it holds under each key. -/
theorem ext_get? {first second : SortedMap κ α}
    (same : ∀ key, first.get? key = second.get? key) : first = second := by
  refine ext (eq_of_mem_iff Prod.fst first.ascending second.ascending fun entry => ?_)
  rw [← get?_eq_some_iff, ← get?_eq_some_iff, same]

/-- A map is made again from its entries in any order. -/
theorem ofList_eq_of_mem_iff {map : SortedMap κ α} {list : List (κ × α)}
    (same : ∀ entry, entry ∈ list ↔ entry ∈ map.entries) : ofList list = map := by
  refine ext (eq_of_mem_iff Prod.fst (ofList list).ascending map.ascending fun entry => ?_)
  constructor
  · exact fun member => (same entry).mp (mem_of_mem_ofList member)
  · intro member
    have key : entry.1 ∈ (ofList list).keys :=
      (mem_keys_ofList_iff list entry.1).mpr (List.mem_map_of_mem ((same entry).mpr member))
    obtain ⟨value, held⟩ := (mem_keys_iff _ _).mp key
    rw [get?_eq_some_iff] at held
    have value_eq := map.value_unique ((same _).mp (mem_of_mem_ofList held)) member
    rwa [value_eq] at held

/-- Maps whose values look the same under each key list the same looks. -/
theorem map_values_eq {look : α → β} {first second : SortedMap κ α}
    (same : ∀ key, (first.get? key).map look = (second.get? key).map look) :
    first.values.map look = second.values.map look := by
  have looks (map : SortedMap κ α) (key : κ) (seen : β) :
      (key, seen) ∈ map.entries.map (fun entry => (entry.1, look entry.2)) ↔
        (map.get? key).map look = some seen := by
    rw [List.mem_map, Option.map_eq_some_iff]
    constructor
    · rintro ⟨⟨name, value⟩, member, same⟩
      cases same
      exact ⟨value, (get?_eq_some_iff map name value).mpr member, rfl⟩
    · rintro ⟨value, found, rfl⟩
      exact ⟨(key, value), (get?_eq_some_iff map key value).mp found, rfl⟩
  have entries : first.entries.map (fun entry => (entry.1, look entry.2)) =
      second.entries.map fun entry => (entry.1, look entry.2) :=
    eq_of_mem_iff Prod.fst (List.pairwise_map.mpr first.ascending)
      (List.pairwise_map.mpr second.ascending) fun entry => by rw [looks, looks, same]
  simpa only [values, List.map_map, Function.comp_def] using congrArg (List.map Prod.snd) entries

omit [Std.TransOrd κ] in
theorem filter_key [DecidableEq κ] (map : SortedMap κ α) (key : κ) :
    (map.entries.filter fun entry => entry.1 = key) = (map.get? key).toList.map (key, ·) := by
  have member (entry : κ × α) : (entry ∈ map.entries.filter fun entry => entry.1 = key) ↔
      entry.1 = key ∧ map.get? key = some entry.2 := by
    obtain ⟨name, value⟩ := entry
    rw [List.mem_filter, decide_eq_true_iff, and_comm, get?_eq_some_iff]
    exact and_congr_right fun here : name = key => by rw [here]
  have distinct := map.nodup_entries.filter fun entry => decide (entry.1 = key)
  cases found : map.get? key with
  | none =>
    refine List.eq_nil_iff_forall_not_mem.mpr fun entry listed => ?_
    rw [member, found] at listed
    cases listed.2
  | some value =>
    refine List.perm_singleton.mp ((List.perm_ext_iff_of_nodup distinct (by simp)).mpr
      fun entry => ?_)
    rw [member, found, List.mem_singleton, Option.some.injEq, Prod.ext_iff, eq_comm (a := value)]

end Lookup

end SortedMap

end LocaleFamilies
