import LocaleFamilies.Json.Decoding
import LocaleFamilies.Json.Written
import Mathlib.Data.List.DropRight
import Mathlib.Data.List.Forall2

/-! Written documents are read back as they were. A string has the same characters once its escapes are
undone, and the blanks of a layout stand only where the reader passes over blanks. So whatever follows a
written value, the reader takes that value and leaves the rest. -/
namespace LocaleFamilies.Json

mutual
def Value.reading : Value → Reading
  | .string text => .string (some text)
  | .list items => .list (readings items) true
  | .object fields => .object (fieldReadings fields) true

def readings : List Value → List Reading
  | [] => []
  | item :: rest => item.reading :: readings rest

def fieldReadings : List (String × Value) → List (Reading × Reading)
  | [] => []
  | (key, value) :: rest => (.string (some key), value.reading) :: fieldReadings rest
end

theorem readings_eq_map (items : List Value) : readings items = items.map Value.reading := by
  induction items with
  | nil => rfl
  | cons item rest ih => rw [readings, ih, List.map_cons]

theorem fieldReadings_eq_map (fields : List (String × Value)) :
    fieldReadings fields = fields.map fun field => (.string (some field.1), field.2.reading) := by
  induction fields with
  | nil => rfl
  | cons field rest ih => rw [fieldReadings, ih, List.map_cons]

theorem writtenItems_eq_map (layout : Layout) (depth : Nat) (items : List Value) :
    writtenItems layout depth items = items.map (written layout depth) := by
  induction items with
  | nil => rfl
  | cons item rest ih => rw [writtenItems, ih, List.map_cons]

theorem writtenFields_eq_map (layout : Layout) (depth : Nat) (fields : List (String × Value)) :
    writtenFields layout depth fields =
      fields.map fun field => quotation field.1 ++ layout.colon ++ written layout depth field.2 := by
  induction fields with
  | nil => rfl
  | cons field rest ih => rw [writtenFields, ih, List.map_cons]

section Strings

theorem unit?_of_control : ∀ n < 0x20,
    unit? ['0', '0', Nat.digitChar (n / 16), Nat.digitChar (n % 16)] = some n := by
  decide

theorem Glyph.ofUnit_toNat {c : Char} (control : c.toNat < 0x20) : ofUnit c.toNat = .whole c := by
  rw [ofUnit, if_neg (by omega), Char.ofNat_toNat]

private theorem glyphs?_short {c value : Char} (known : shortEscape? c = some value)
    (rest : List Char) : glyphs? ('\\' :: c :: rest) =
      (glyphs? rest).map fun read => (.whole value :: read.1, read.2) := by
  have other : c ≠ 'u' := by
    rintro rfl
    cases known
  rw [glyphs?, known]
  · cases glyphs? rest <;> rfl
  · intro _ _ _ _ _ same
    exact absurd same other

private theorem glyphs?_plain {c : Char} (quote : c ≠ '"') (slash : c ≠ '\\')
    (printed : ¬ c.toNat < 0x20) (rest : List Char) :
    glyphs? (c :: rest) = (glyphs? rest).map fun read => (.whole c :: read.1, read.2) := by
  rw [glyphs?, if_neg (not_or.mpr ⟨slash, printed⟩)]
  · exact quote
  · intro _ _ _ _ _ same
    exact absurd same slash
  · intro _ _ same
    exact absurd same slash

/-- A character within quotes is read as itself. -/
theorem glyphs?_escaped (c : Char) (rest : List Char) :
    glyphs? (escaped c ++ rest) =
      (glyphs? rest).map fun read => (.whole c :: read.1, read.2) := by
  unfold escaped
  split
  case h_8 quote slash _ _ _ _ _ =>
    split
    · rename_i control
      simp only [List.cons_append, List.nil_append]
      rw [glyphs?, unit?_of_control _ control, ← Glyph.ofUnit_toNat control]
      cases glyphs? rest <;> rfl
    · rename_i printed
      exact glyphs?_plain quote slash printed rest
  all_goals exact glyphs?_short rfl rest

/-- A quoted text is read up to its closing quote. -/
theorem glyphs?_quoted (chars rest : List Char) :
    glyphs? (chars.flatMap escaped ++ '"' :: rest) = some (chars.map .whole, rest) := by
  induction chars with
  | nil => rfl
  | cons c chars ih =>
    rw [List.flatMap_cons, List.append_assoc, glyphs?_escaped, ih]
    rfl

example : quotation "\"\\\n\x01é" = "\"\\\"\\\\\\n\\u0001é\"".toList := by decide

theorem textOf_whole (text : String) : textOf (text.toList.map .whole) = some text := by
  have all (chars : List Char) : characters? (chars.map .whole) = some chars := by
    induction chars with
    | nil => rfl
    | cons c chars ih => rw [List.map_cons, characters?, ih, Option.map_some]
  rw [textOf, all, Option.map_some, String.ofList_toList]

end Strings

section Blanks

theorem skip_append {blanks : List Char} (blank : ∀ c ∈ blanks, isSpace c = true)
    (text : List Char) : skip (blanks ++ text) = skip text :=
  List.dropWhile_append_of_pos blank

theorem skip_cons {c : Char} (mark : isSpace c = false) (text : List Char) :
    skip (c :: text) = c :: text :=
  List.dropWhile_cons_of_neg (by simp [mark])

/-- A reader that passes over blanks in front of what it reads. -/
def Ignores {α : Type} (item : List Char → α × List Char) : Prop :=
  ∀ text, item (skip text) = item text

theorem ignores_value (bound : Nat) : Ignores (value bound) := by
  intro text
  cases bound with
  | zero => rfl
  | succ bound => simp only [value, skip, List.dropWhile_idempotent]

theorem ignores_member (bound : Nat) : Ignores (member (value bound)) := by
  intro text
  rw [member, member, ignores_value]

end Blanks

section Brackets

variable {α : Type} {item : List Char → α × List Char} {close : Char}

/-- A reader that takes a part for a result, whatever follows it. -/
def Reads (item : List Char → α × List Char) (part : List Char) (result : α) : Prop :=
  ∀ rest, item (part ++ rest) = (result, rest)

variable (ignores : Ignores item)

include ignores

theorem Reads.after_blanks {blanks part : List Char} {result : α}
    (blank : ∀ c ∈ blanks, isSpace c = true) (reads : Reads item part result) :
    Reads item (blanks ++ part) result := by
  intro rest
  rw [List.append_assoc, ← ignores, skip_append blank, ignores, reads]

theorem series_skip (bound : Nat) (text : List Char) :
    series close item bound (skip text) = series close item bound text := by
  cases bound with
  | zero => rfl
  | succ bound => rw [series, series, ignores]

omit ignores in
/-- Parts with commas between them are read one after another up to the closing character. -/
theorem series_join {parts : List (List Char)} {results : List α}
    (all : List.Forall₂ (Reads item) parts results) (some_part : parts ≠ []) {blanks : List Char}
    (blank : ∀ c ∈ blanks, isSpace c = true) (mark : isSpace close = false) (other : close ≠ ',')
    {bound : Nat} (enough : parts.length ≤ bound) (rest : List Char) :
    series close item bound (Separated.join ',' parts ++ (blanks ++ close :: rest)) =
      (results, true, rest) := by
  induction all generalizing bound with
  | nil => exact absurd rfl some_part
  | @cons part result parts results reads later ih =>
    obtain ⟨bound, rfl⟩ : ∃ fewer, bound = fewer + 1 :=
      Nat.exists_eq_add_one.mpr (Nat.lt_of_lt_of_le (Nat.succ_pos _) enough)
    have enough := Nat.le_of_succ_le_succ enough
    cases later with
    | nil =>
      rw [Separated.join, series, reads]
      simp only
      rw [skip_append blank, skip_cons mark]
      split
      · rename_i same
        exact absurd (List.cons.inj same).1 other
      · rename_i same
        cases same
        rw [if_pos rfl]
      · rename_i same
        cases same
    | @cons next _ parts _ reads' later =>
      rw [Separated.join, List.append_assoc, List.cons_append, series, reads]
      simp only
      rw [skip_cons (by decide)]
      simp only [ih (List.cons_ne_nil _ _) enough]

/-- What is between brackets is read as a whole. -/
theorem exists_enclosed (layout : Layout) (depth : Nat) (opening close : Char)
    (gaps : ∀ depth, ∀ c ∈ layout.gap depth, isSpace c = true)
    (mark : isSpace close = false) (other : close ≠ ',') {parts : List (List Char)}
    {results : List α} (all : List.Forall₂ (Reads item) parts results)
    (opens : ∀ part ∈ parts, ∃ c more, part = c :: more ∧ isSpace c = false ∧ c ≠ close) :
    ∃ body, bracketed layout depth opening close parts = opening :: body ∧
      ∀ rest, enclosed close item (body ++ rest) = (results, true, rest) := by
  cases parts with
  | nil =>
    cases all
    refine ⟨[close], rfl, fun rest => ?_⟩
    rw [enclosed, List.singleton_append, skip_cons mark]
    simp
  | cons first others =>
    obtain ⟨c, more, rfl, visible, apart⟩ := opens first List.mem_cons_self
    let set_in := ((c :: more) :: others).map (layout.gap (depth + 1) ++ ·)
    let body := Separated.join ',' set_in ++ layout.gap depth ++ [close]
    refine ⟨body, rfl, fun rest => ?_⟩
    have reads : List.Forall₂ (Reads item) set_in results :=
      List.forall₂_map_left_iff.mpr (all.imp fun _ _ reads => reads.after_blanks ignores (gaps _))
    have text : body ++ rest = Separated.join ',' set_in ++ (layout.gap depth ++ close :: rest) := by
      simp [body]
    obtain ⟨tail, front⟩ : ∃ tail, skip (body ++ rest) = c :: tail := by
      obtain ⟨later, joined⟩ := Separated.prefix_join ','
        (layout.gap (depth + 1) ++ c :: more) (others.map (layout.gap (depth + 1) ++ ·))
      refine ⟨more ++ later ++ (layout.gap depth ++ close :: rest), ?_⟩
      rw [text, show Separated.join ',' set_in = _ from joined.symm, List.append_assoc,
        List.append_assoc, skip_append (gaps _), List.cons_append, skip_cons visible,
        List.append_assoc]
    have enough : set_in.length ≤ (body ++ rest).length := by
      have joined := Separated.length_le_length_join ',' set_in
      rw [text, List.length_append, List.length_append, List.length_cons]
      omega
    rw [enclosed, front]
    simp only
    rw [if_neg apart, ← front, series_skip ignores]
    generalize (body ++ rest).length = bound at enough
    rw [text]
    exact series_join reads (by simp [set_in]) (gaps depth) mark other enough rest

end Brackets

/-- A layout whose blanks are passed over, and whose colon is one. -/
structure Layout.IsLegible (layout : Layout) : Prop where
  gap : ∀ depth, ∀ c ∈ layout.gap depth, isSpace c = true
  colon : ∃ before after, layout.colon = before ++ ':' :: after ∧
    (∀ c ∈ before, isSpace c = true) ∧ ∀ c ∈ after, isSpace c = true

theorem Layout.isLegible_compact : compact.IsLegible :=
  ⟨fun _ => List.forall_mem_nil _, [], [], rfl, List.forall_mem_nil _, List.forall_mem_nil _⟩

theorem Layout.isLegible_pretty : pretty.IsLegible := by
  refine ⟨fun depth c member => ?_, [], [' '], rfl, List.forall_mem_nil _,
    List.forall_mem_singleton.mpr rfl⟩
  rcases List.mem_cons.mp member with rfl | blank
  · rfl
  · rw [List.eq_of_mem_replicate blank]
    rfl

section Documents

variable {layout : Layout}

theorem length_lt_bracketed {depth : Nat} {opening closing : Char} {parts : List (List Char)}
    {part : List Char} (member : part ∈ parts) :
    part.length < (bracketed layout depth opening closing parts).length := by
  have some_part : ¬ parts.isEmpty = true := by
    rw [List.isEmpty_iff]
    rintro rfl
    cases member
  have joined := Separated.length_le_of_mem ','
    (List.mem_map_of_mem (f := (layout.gap (depth + 1) ++ ·)) member)
  rw [List.length_append] at joined
  simp only [bracketed, if_neg some_part, List.length_append, List.length_cons]
  omega

/-- A written value starts with a quote or an opening bracket. -/
theorem written_opens (layout : Layout) (depth : Nat) (document : Value) :
    ∃ c more, written layout depth document = c :: more ∧ isSpace c = false ∧ c ≠ ']' ∧ c ≠ '}' := by
  have brackets (opening closing : Char) (parts : List (List Char)) :
      ∃ more, bracketed layout depth opening closing parts = opening :: more := by
    unfold bracketed
    split
    · exact ⟨_, rfl⟩
    · exact ⟨_, rfl⟩
  cases document with
  | string text => exact ⟨'"', _, rfl, by decide, by decide, by decide⟩
  | list items =>
    obtain ⟨more, opens⟩ := brackets '[' ']' (writtenItems layout (depth + 1) items)
    exact ⟨'[', more, opens, by decide, by decide, by decide⟩
  | object fields =>
    obtain ⟨more, opens⟩ := brackets '{' '}' (writtenFields layout (depth + 1) fields)
    exact ⟨'{', more, opens, by decide, by decide, by decide⟩

theorem reads_quotation {bound : Nat} (deep : bound ≠ 0) (text : String) :
    Reads (value bound) (quotation text) (.string (some text)) := by
  intro rest
  obtain ⟨bound, rfl⟩ := Nat.exists_eq_succ_of_ne_zero deep
  have quoted : quotation text ++ rest = '"' :: (text.toList.flatMap escaped ++ '"' :: rest) := by
    simp [quotation]
  rw [quoted, value, skip_cons (by decide)]
  simp only [glyphs?_quoted, textOf_whole]

variable (legible : layout.IsLegible)

include legible

theorem reads_member {bound : Nat} (deep : bound ≠ 0) (key : String) {part : List Char}
    {result : Reading} (reads : Reads (value bound) part result) :
    Reads (member (value bound)) (quotation key ++ layout.colon ++ part)
      (.string (some key), result) := by
  intro rest
  obtain ⟨before, after, colon, blank, blank'⟩ := legible.colon
  rw [member, List.append_assoc, List.append_assoc, reads_quotation deep]
  simp only
  rw [colon, List.append_assoc, skip_append blank, List.cons_append, skip_cons (by decide)]
  simp only
  rw [← List.append_assoc, reads.after_blanks (ignores_value _) blank']

/-- A written value is read back, whatever follows it, if values may be nested deep enough. The depth
goes down with each bracket, and so does the length of what is left within it. -/
theorem reads_written (bound depth : Nat) (document : Value)
    (enough : (written layout depth document).length ≤ bound) :
    Reads (value bound) (written layout depth document) document.reading := by
  induction bound generalizing depth document with
  | zero =>
    obtain ⟨c, more, opens, -⟩ := written_opens layout depth document
    rw [opens] at enough
    cases enough
  | succ bound ih =>
    have fits {opening closing : Char} {parts : List (List Char)}
        (room : (bracketed layout depth opening closing parts).length ≤ bound + 1)
        {part : List Char} (member : part ∈ parts) : part.length ≤ bound :=
      Nat.le_of_lt_succ (Nat.lt_of_lt_of_le (length_lt_bracketed member) room)
    cases document with
    | string text => exact reads_quotation (Nat.succ_ne_zero bound) text
    | list items =>
      rw [written, writtenItems_eq_map] at enough ⊢
      have all : List.Forall₂ (Reads (value bound)) (items.map (written layout (depth + 1)))
          (readings items) := by
        rw [readings_eq_map, List.forall₂_map_left_iff, List.forall₂_map_right_iff, List.forall₂_same]
        exact fun item member => ih _ item (fits enough (List.mem_map_of_mem member))
      have opens : ∀ part ∈ items.map (written layout (depth + 1)),
          ∃ c more, part = c :: more ∧ isSpace c = false ∧ c ≠ ']' := by
        rintro _ member
        obtain ⟨item, -, rfl⟩ := List.mem_map.mp member
        obtain ⟨c, more, opens, visible, other, -⟩ := written_opens layout (depth + 1) item
        exact ⟨c, more, opens, visible, other⟩
      obtain ⟨body, whole, closes⟩ := exists_enclosed (ignores_value bound) layout depth '[' ']'
        legible.gap (by decide) (by decide) all opens
      intro rest
      rw [whole, List.cons_append, value, skip_cons (by decide)]
      simp only [closes]
      rfl
    | object fields =>
      rw [written, writtenFields_eq_map] at enough ⊢
      have all : List.Forall₂ (Reads (member (value bound)))
          (fields.map fun field =>
            quotation field.1 ++ layout.colon ++ written layout (depth + 1) field.2)
          (fieldReadings fields) := by
        rw [fieldReadings_eq_map, List.forall₂_map_left_iff, List.forall₂_map_right_iff,
          List.forall₂_same]
        intro field listed
        have room := fits enough (List.mem_map_of_mem listed)
        simp only [quotation, List.length_append, List.length_cons] at room
        exact reads_member legible (by omega) field.1 (ih _ field.2 (by omega))
      have opens : ∀ part ∈ fields.map (fun field =>
          quotation field.1 ++ layout.colon ++ written layout (depth + 1) field.2),
          ∃ c more, part = c :: more ∧ isSpace c = false ∧ c ≠ '}' := by
        rintro _ member
        obtain ⟨field, -, rfl⟩ := List.mem_map.mp member
        exact ⟨'"', _, rfl, by decide, by decide⟩
      obtain ⟨body, whole, closes⟩ := exists_enclosed (ignores_member bound) layout depth '{' '}'
        legible.gap (by decide) (by decide) all opens
      intro rest
      rw [whole, List.cons_append, value, skip_cons (by decide)]
      simp only [closes]
      rfl

/-- A written document is read back, also with blanks after it. -/
theorem read_written (document : Value) {blanks : List Char}
    (blank : ∀ c ∈ blanks, isSpace c = true) :
    Document.read (written layout 0 document ++ blanks) = ⟨document.reading, true⟩ := by
  have enough : (written layout 0 document).length ≤
      (written layout 0 document ++ blanks).length + 1 := by
    rw [List.length_append]
    omega
  rw [Document.read, reads_written legible _ 0 document enough]
  simp only
  rw [← List.append_nil blanks, skip_append blank]
  rfl

theorem decode_written {α : Type} (item : Reading → Except Problem α) (document : Value)
    {blanks : List Char} (blank : ∀ c ∈ blanks, isSpace c = true) :
    decode item (written layout 0 document ++ blanks) = item document.reading := by
  rw [decode, read_written legible document blank]
  cases item document.reading <;> rfl

theorem decode_render {α : Type} (item : Reading → Except Problem α) (document : Value) :
    decode item (render layout document).toList = item document.reading := by
  have decoded := decode_written legible item document (List.forall_mem_nil _)
  rwa [List.append_nil, ← String.toList_ofList (l := written layout 0 document)] at decoded

end Documents

section Decoding

/-- Strings in a list are read in their order. -/
theorem list_strings {α : Type} (item : Reading → Except Problem α) (valueOf : String → α)
    (each : ∀ text, item (.string (some text)) = .ok (valueOf text)) (texts : List String) :
    list item (Value.list (texts.map .string)).reading = .ok (texts.map valueOf) := by
  have all : (texts.map fun text => Reading.string (some text)).mapM item =
      .ok (texts.map valueOf) := by
    induction texts with
    | nil => rfl
    | cons text rest ih =>
      rw [List.map_cons, List.mapM_cons, each, ih]
      rfl
  have read : (Value.list (texts.map .string)).reading =
      .list (texts.map fun text => .string (some text)) true := by
    rw [Value.reading, readings_eq_map, List.map_map]
    rfl
  rw [read, list, all]
  rfl

/-- Texts under names are read in the order in which they are written. -/
theorem entries_strings (named : List (String × String)) :
    entries text (Value.object (named.map fun entry => (entry.1, .string entry.2))).reading =
      .ok named := by
  have all : (named.map fun entry =>
      (Reading.string (some entry.1), Reading.string (some entry.2))).mapM (fun field => do
        let name ← key field.1
        let value ← text field.2
        return (name, value)) = Except.ok (ε := Problem) named := by
    induction named with
    | nil => rfl
    | cons entry rest ih =>
      rw [List.map_cons, List.mapM_cons, ih]
      rfl
  have read : (Value.object (named.map fun entry => (entry.1, .string entry.2))).reading =
      .object (named.map fun entry => (.string (some entry.1), .string (some entry.2))) true := by
    rw [Value.reading, fieldReadings_eq_map, List.map_map]
    rfl
  rw [read, entries]
  simp only [all]
  rfl

theorem optional_reading {α : Type} (item : Reading → Except Problem α) (document : Value) :
    optional item document.reading = (item document.reading).map some := by
  cases document <;> rfl

variable {σ α : Type} (shape : Shape σ α)

def Shape.taken (state : σ) (fields : List (String × Value)) : Except Problem σ :=
  (fields.map fun field => (field.1, field.2.reading)).foldlM
    (fun state field => shape.take state field.1 field.2) state

variable {shape} in
theorem Shape.taken_append {state middle : σ} {last : Except Problem σ}
    {first second : List (String × Value)} (front : shape.taken state first = .ok middle)
    (rest : shape.taken middle second = last) : shape.taken state (first ++ second) = last := by
  have both : shape.taken state (first ++ second) =
      (shape.taken state first).bind fun state => shape.taken state second := by
    rw [taken, List.map_append, List.foldlM_append]
    rfl
  rw [both, front]
  exact rest

/-- A record that is written as an object is what its fields make of it, taken one after another. -/
theorem Shape.decode_object (fields : List (String × Value)) :
    shape.decode (Value.object fields).reading =
      (shape.taken shape.start fields).bind (shape.finish .missingField) := by
  have same (state : σ) : (fieldReadings fields).foldlM (fun state field => do
      let name ← key field.1
      shape.take state name field.2) state = shape.taken state fields := by
    induction fields generalizing state with
    | nil => rfl
    | cons field rest ih =>
      rw [fieldReadings, List.foldlM_cons, Shape.taken, List.map_cons, List.foldlM_cons]
      exact congrArg (Except.bind _) (funext ih)
  rw [Value.reading, decode, same]
  cases shape.taken shape.start fields <;> rfl

end Decoding

end LocaleFamilies.Json
