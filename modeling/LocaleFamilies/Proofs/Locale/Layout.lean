import LocaleFamilies.Proofs.Locale.Reading
import Mathlib.Tactic.MkIffOfInductiveProp

/-! Modules in the documented layout. The default and the supported locales are declared one after the
other, each locale in an entry of its own, and what stands around the declarations assigns neither keyword.
A reader does not match delimiters with each other and ends the block at the first closing brace, so such a
module is read back exactly if no name has a delimiter or a closing brace. -/
namespace LocaleFamilies.Declarations

open Separated (takeWhile_span dropWhile_span)

namespace Entry

variable {entry : Entry}

/-- What an entry declares: its code and all that stands between the delimiters of the name. -/
def declared (entry : Entry) : Code × String := (entry.code, String.ofList entry.inner)

/-- An entry whose delimiters fit each other. The name does not have its own delimiter, and no white space
around it. -/
@[mk_iff]
structure IsProper (entry : Entry) : Prop where
  opening : IsMark entry.opening
  closing : entry.closing = entry.opening
  coded : entry.code.toList ≠ []
  code : ∀ c ∈ entry.code.toList, isCodeChar c = true
  beforeColon : ∀ c ∈ entry.beforeColon, Text.isBlank c = true
  afterColon : ∀ c ∈ entry.afterColon, Text.isBlank c = true
  first : isQuote entry.first = true
  inner : entry.first ∉ entry.inner
  front : ∀ c ∈ entry.inner.head?, Text.isBlank c = false
  back : ∀ c ∈ entry.inner.getLast?, Text.isBlank c = false
  last : entry.last = entry.first

instance (chars : List Char) : Decidable (IsMark chars) :=
  match chars with
  | [] => isTrue (Or.inl rfl)
  | [c] => decidable_of_iff (isQuote c = true) (by simp [IsMark])
  | _ :: _ :: _ => isFalse (by simp [IsMark])

instance (entry : Entry) : Decidable entry.IsProper :=
  decidable_of_iff
    (IsMark entry.opening ∧ entry.closing = entry.opening ∧ entry.code.toList ≠ [] ∧
      entry.code.toList.all isCodeChar = true ∧ entry.beforeColon.all Text.isBlank = true ∧
      entry.afterColon.all Text.isBlank = true ∧ isQuote entry.first = true ∧
      entry.first ∉ entry.inner ∧ entry.inner.head?.any Text.isBlank = false ∧
      entry.inner.getLast?.any Text.isBlank = false ∧ entry.last = entry.first)
    (by simp only [isProper_iff, List.all_eq_true, Option.any_eq_false, Option.mem_def])

namespace IsProper

variable (proper : entry.IsProper)

include proper

theorem isReadable (unquoted : ∀ c ∈ entry.inner, isQuote c = false) : entry.IsReadable where
  opening := proper.opening
  coded := proper.coded
  code := proper.code
  closing := proper.closing ▸ proper.opening
  beforeColon := proper.beforeColon
  afterColon := proper.afterColon
  first := proper.first
  inner := unquoted
  last := proper.last ▸ proper.first

theorem pair_eq : entry.pair = entry.declared := by
  rw [pair, declared, Text.trim_eq_self proper.front proper.back]

theorem brace_mem (brace : '}' ∈ entry.text) : '}' ∈ entry.inner := by
  have delimiter {c : Char} (quote : isQuote c = true) : '}' ≠ c := by
    rintro rfl
    cases quote
  have mark {chars : List Char} (marked : IsMark chars) : '}' ∉ chars := by
    rcases marked with rfl | ⟨c, quote, rfl⟩
    · exact List.not_mem_nil
    · simpa using delimiter quote
  have coded : '}' ∉ entry.code.toList := fun member => by cases proper.code _ member
  have before : '}' ∉ entry.beforeColon := fun member => by cases proper.beforeColon _ member
  have after : '}' ∉ entry.afterColon := fun member => by cases proper.afterColon _ member
  simpa [text, proper.last, mark proper.opening, proper.closing, coded, before, after,
    delimiter proper.first] using brace

end IsProper

end Entry

/-- Entries with commas between them and perhaps one behind the last. -/
inductive IsBody : List Entry → List Char → Prop
  | empty (gap : List Char) (blank : ∀ c ∈ gap, Text.isBlank c = true) : IsBody [] gap
  | last (gap gap' : List Char) (entry : Entry) (blank : ∀ c ∈ gap, Text.isBlank c = true)
    (blank' : ∀ c ∈ gap', Text.isBlank c = true) : IsBody [entry] (gap ++ (entry.text ++ gap'))
  | more (gap gap' rest : List Char) (entry : Entry) (others : List Entry)
    (blank : ∀ c ∈ gap, Text.isBlank c = true) (blank' : ∀ c ∈ gap', Text.isBlank c = true)
    (body : IsBody others rest) : IsBody (entry :: others) (gap ++ (entry.text ++ (gap' ++ ',' :: rest)))

section Body

theorem pair?_eq_none {c : Char} {rest : List Char} (other : isQuote c = false)
    (ends : isCodeChar c = false) : pair? (c :: rest) = none := by
  simp [pair?, dropQuote, other, ends]

theorem entries_gap {gap rest : List Char} (blank : ∀ c ∈ gap, Text.isBlank c = true) :
    entries (gap ++ rest) = entries rest := by
  induction gap with
  | nil => rfl
  | cons c gap ih =>
    have here := blank c List.mem_cons_self
    rw [List.cons_append, entries_cons (pair?_eq_none (isQuote_of_isBlank here)
      (isCodeChar_of_isBlank here)), ih fun c member => blank c (List.mem_cons_of_mem _ member)]

theorem entries_blank {gap : List Char} (blank : ∀ c ∈ gap, Text.isBlank c = true) :
    entries gap = [] := by
  rw [← List.append_nil gap, entries_gap blank]
  simp [entries, pair?, dropQuote]

theorem entries_entry {entry : Entry} {rest : List Char} (proper : entry.IsProper)
    (unquoted : ∀ c ∈ entry.inner, isQuote c = false) :
    entries (entry.text ++ rest) = entry.declared :: entries rest := by
  have here : pair? (entry.text ++ rest) = some (entry.pair, rest) :=
    pair?_eq_some_iff.mpr ⟨entry, proper.isReadable unquoted, rfl, rfl⟩
  rw [entries_of_pair? here, proper.pair_eq]

variable {written : List Entry} {body : List Char} (lists : IsBody written body)
  (proper : ∀ entry ∈ written, entry.IsProper)

include lists proper

theorem entries_body (unquoted : ∀ entry ∈ written, ∀ c ∈ entry.inner, isQuote c = false) :
    entries body = written.map Entry.declared := by
  induction lists with
  | empty gap blank => exact entries_blank blank
  | last gap gap' entry blank blank' =>
    have here := List.mem_singleton_self entry
    rw [entries_gap blank, entries_entry (proper _ here) (unquoted _ here), entries_blank blank']
    rfl
  | more gap gap' rest entry others blank blank' _ ih =>
    have here : entry ∈ entry :: others := List.mem_cons_self
    rw [entries_gap blank, entries_entry (proper _ here) (unquoted _ here), entries_gap blank',
      entries_cons (pair?_eq_none (by decide) (by decide)),
      ih (fun other member => proper other (List.mem_cons_of_mem _ member))
        fun other member => unquoted other (List.mem_cons_of_mem _ member), List.map_cons]

theorem exists_brace_mem (brace : '}' ∈ body) : ∃ entry ∈ written, '}' ∈ entry.inner := by
  have outside {gap : List Char} (blank : ∀ c ∈ gap, Text.isBlank c = true) : '}' ∉ gap :=
    fun member => by cases blank _ member
  induction lists with
  | empty gap blank => exact absurd brace (outside blank)
  | last gap gap' entry blank blank' =>
    have here := List.mem_singleton_self entry
    have inside : '}' ∈ entry.text := by simpa [outside blank, outside blank'] using brace
    exact ⟨entry, here, (proper _ here).brace_mem inside⟩
  | more gap gap' rest entry others blank blank' _ ih =>
    have split : '}' ∈ entry.text ∨ '}' ∈ rest := by
      simpa [outside blank, outside blank'] using brace
    rcases split with inside | later
    · exact ⟨entry, List.mem_cons_self, (proper _ List.mem_cons_self).brace_mem inside⟩
    · obtain ⟨other, member, inside⟩ :=
        ih (fun other member => proper other (List.mem_cons_of_mem _ member)) later
      exact ⟨other, List.mem_cons_of_mem _ member, inside⟩

end Body

/-- No equals sign follows a keyword in some characters. -/
def Unassigned (keyword chars : List Char) : Prop :=
  ∀ before after, chars = before ++ (keyword ++ after) → '=' ∉ after

namespace Unassigned

variable {keyword chars more : List Char}

theorem of_not_mem (free : '=' ∉ chars) : Unassigned keyword chars := by
  rintro before after rfl member
  exact free (by simp [member])

theorem of_suffix (unassigned : Unassigned keyword chars) (ending : more <:+ chars) :
    Unassigned keyword more := by
  obtain ⟨front, rfl⟩ := ending
  intro before after whole
  exact unassigned (front ++ before) after (by rw [whole, List.append_assoc])

theorem append (unassigned : Unassigned keyword chars) (free : '=' ∉ more) :
    Unassigned keyword (chars ++ more) := by
  intro before after whole member
  rw [← List.append_assoc, List.append_eq_append_iff] at whole
  rcases whole with ⟨between, -, rfl⟩ | ⟨between, rfl, rfl⟩
  · exact free (List.mem_append_right _ member)
  · refine (List.mem_append.mp member).elim (unassigned before between ?_) free
    rw [List.append_assoc]

theorem cons {c : Char} (unassigned : Unassigned keyword chars) (apart : keyword.head?.any (· != c)) :
    Unassigned keyword (c :: chars) := by
  intro before after whole
  cases before with
  | nil =>
    cases keyword with
    | nil => cases apart
    | cons first word =>
      cases whole
      simp at apart
  | cons d before =>
    cases whole
    exact unassigned before after rfl

/-- What is assigned to a keyword that starts in front of an equals sign stands behind that sign. -/
theorem assigned?_append {rest : List Char} (unassigned : Unassigned keyword chars)
    (free : '=' ∉ keyword) : assigned? keyword (chars ++ '=' :: rest) = none ∨
      assigned? keyword (chars ++ '=' :: rest) = some (rest.dropWhile Text.isBlank) := by
  unfold assigned?
  split
  · exact Or.inl rfl
  · rename_i tail taken
    rw [after?_eq_some_iff, List.append_eq_append_iff] at taken
    -- the keyword ends in front of the sign, since it has none itself
    obtain ⟨between, rfl, rfl⟩ : ∃ between, chars = keyword ++ between ∧
        tail = between ++ '=' :: rest := by
      rcases taken with ⟨between, rfl, whole⟩ | ⟨between, rfl, rfl⟩
      · cases between with
        | nil => exact ⟨[], by simp, by simpa using whole.symm⟩
        | cons c between =>
          cases whole
          simp at free
      · exact ⟨between, rfl, rfl⟩
    -- what is left of the line either reaches the sign or breaks off before it, and then nothing is assigned
    obtain ⟨line, others, rfl, inline, stops⟩ := exists_span (fun c => c != '=' && c != '\n') between
    have reached : (line ++ others ++ '=' :: rest).dropWhile (fun c => c != '=' && c != '\n') =
        others ++ '=' :: rest := by
      rw [List.append_assoc]
      exact dropWhile_span inline (head?_append_cons stops (by decide))
    split
    · exact Or.inl rfl
    · rw [reached]
      cases others with
      | nil => exact Or.inr rfl
      | cons c others =>
        have other : c ≠ '=' := by
          rintro rfl
          exact unassigned [] _ rfl (by simp)
        left
        simp [other]

end Unassigned

section Found

variable {α : Type} {read : List Char → Option α} {answer : α}
  {keyword before tail rest value : List Char}

theorem firstAlong_of_eq_some {text : List Char} (here : read text = some answer) :
    firstAlong read text = some answer := by
  cases text with
  | nil => exact here
  | cons c text => rw [firstAlong, here, Option.some_or]

theorem firstAlong_assigned (unassigned : Unassigned keyword (before ++ tail)) (free : '=' ∉ keyword)
    (here : assigned? keyword (tail ++ '=' :: rest) = some value) (found : read value = some answer) :
    firstAlong (fun text => (assigned? keyword text).bind read) (before ++ (tail ++ '=' :: rest)) =
      some answer := by
  have value_eq : value = rest.dropWhile Text.isBlank := by
    rcases (unassigned.of_suffix (List.suffix_append before tail)).assigned?_append free with none | same
    · rw [here] at none
      cases none
    · rwa [here, Option.some.injEq] at same
  refine firstAlong_append (fun start ending _ => ?_) (firstAlong_of_eq_some ?_)
  · have ending' : start ++ tail <:+ before ++ tail := by
      obtain ⟨front, rfl⟩ := ending
      exact ⟨front, by simp⟩
    rw [← List.append_assoc]
    rcases (unassigned.of_suffix ending').assigned?_append free with none | same
    · exact Or.inl (by rw [none, Option.bind_none])
    · exact Or.inr (by rw [same, Option.bind_some, ← value_eq, found])
  · rw [here, Option.bind_some, found]

theorem blank_space : ∀ c ∈ [' '], Text.isBlank c = true := List.all_eq_true.mp (by decide)

theorem assigned?_words {words : List Char} {c : Char}
    (ends : words.head?.any Text.isWord = false) (inline : words.all fun c => c != '=' && c != '\n')
    (starts : Text.isBlank c = false) :
    assigned? keyword (keyword ++ words ++ '=' :: ' ' :: c :: rest) = some (c :: rest) := by
  rw [List.append_assoc]
  refine assigned?_eq_some_iff.mpr (.intro words [' '] (c :: rest) ?_ ?_ blank_space ?_)
  · intro c first
    rw [Option.mem_def.mp first] at ends
    exact ends
  · simpa using inline
  · simpa using starts

/-- A place where something else is assigned is passed over. -/
theorem firstAlong_skip (unassigned : Unassigned keyword before) (free : '=' ∉ keyword)
    (other : read (rest.dropWhile Text.isBlank) = none)
    (later : firstAlong (fun text => (assigned? keyword text).bind read) rest = some answer) :
    firstAlong (fun text => (assigned? keyword text).bind read) (before ++ '=' :: rest) =
      some answer := by
  rw [List.append_cons]
  refine firstAlong_append (fun start ending some_char => Or.inl ?_) later
  rcases List.suffix_concat_iff.mp ending with none | ⟨front, rfl, inside⟩
  · exact absurd none some_char
  · rw [← List.append_cons]
    rcases (unassigned.of_suffix inside).assigned?_append free with none | assigned
    · rw [none, Option.bind_none]
    · rw [assigned, Option.bind_some, other]

end Found

/-- A module in the documented layout that declares a registry. Around the two declarations there may be
more, if it does not assign their keywords. -/
inductive IsLayout (registry : Registry) : List Char → Prop
  | intro (preamble between body rest : List Char) (delimiter : Char) (written : List Entry)
    (quote : isQuote delimiter = true)
    (before : Unassigned "defaultLocale".toList preamble)
    (before' : Unassigned "supportedLocales".toList preamble)
    (amid : Unassigned "supportedLocales".toList
      (delimiter :: (registry.defaultCode.toList ++ delimiter :: ';' :: between)))
    (lists : IsBody written body)
    (proper : ∀ entry ∈ written, entry.IsProper)
    (declares : (written.map Entry.declared).Perm registry.names.entries) :
    IsLayout registry (preamble ++ ("export const defaultLocale: Locale = ".toList ++
      delimiter :: (registry.defaultCode.toList ++ delimiter :: ';' :: (between ++
        ("export const supportedLocales = ".toList ++ '{' :: (body ++ '}' :: rest))))))

theorem default_words : "export const defaultLocale: Locale = ".toList =
    "export const ".toList ++ ("defaultLocale".toList ++ (": Locale ".toList ++ ['=', ' '])) := by
  decide +kernel

theorem supported_words : "export const supportedLocales = ".toList =
    "export const ".toList ++ ("supportedLocales".toList ++ [' ', '=', ' ']) := by
  decide +kernel

theorem coded_default {registry : Registry} {written : List Entry}
    (proper : ∀ entry ∈ written, entry.IsProper)
    (declares : (written.map Entry.declared).Perm registry.names.entries) :
    registry.defaultCode.toList ≠ [] ∧ ∀ c ∈ registry.defaultCode.toList, isCodeChar c = true := by
  obtain ⟨pair, held, same⟩ := List.mem_map.mp registry.defaultCode_mem
  obtain ⟨entry, member, rfl⟩ := List.mem_map.mp (declares.mem_iff.mpr held)
  rw [← same]
  exact ⟨(proper entry member).coded, (proper entry member).code⟩

namespace IsLayout

variable {registry : Registry} {text : List Char} (layout : IsLayout registry text)

include layout

theorem defaultCode?_eq : defaultCode? text = some registry.defaultCode := by
  obtain ⟨preamble, between, body, rest, delimiter, written, quote, clear, -, -, -, proper, declares⟩ :=
    layout
  let value := delimiter :: (registry.defaultCode.toList ++ delimiter :: ';' :: (between ++
    ("export const supportedLocales = ".toList ++ '{' :: (body ++ '}' :: rest))))
  have here : assigned? "defaultLocale".toList
      ("defaultLocale".toList ++ ": Locale ".toList ++ '=' :: ' ' :: value) = some value :=
    assigned?_words (by decide) (by decide) (isBlank_of_isQuote quote)
  have found : quotedCode? value = some registry.defaultCode :=
    quotedCode?_eq_some_iff.mpr ⟨coded_default proper declares, delimiter, delimiter, _, quote, quote, rfl⟩
  have clear : Unassigned "defaultLocale".toList
      (preamble ++ "export const ".toList ++ ("defaultLocale".toList ++ ": Locale ".toList)) :=
    (clear.append (by decide)).append (by decide)
  have first := firstAlong_assigned clear (by decide) here found
  rw [default_words, defaultCode?]
  simpa only [value, List.append_assoc, List.cons_append, List.nil_append] using first

/-- The supported locales are read up to the first closing brace, which may be one of a name. -/
theorem exists_supported? : ∃ written body rest, IsBody written body ∧
    (∀ entry ∈ written, entry.IsProper) ∧
    (written.map Entry.declared).Perm registry.names.entries ∧
    supported? text = some ((body ++ '}' :: rest).takeWhile (· != '}')) := by
  obtain ⟨preamble, between, body, rest, delimiter, written, quote, -, clear, clear', lists, proper,
    declares⟩ := layout
  refine ⟨written, body, rest, lists, proper, declares, ?_⟩
  let block := '{' :: (body ++ '}' :: rest)
  let default := delimiter :: (registry.defaultCode.toList ++ delimiter :: ';' :: between)
  let after := "export const ".toList ++ ("supportedLocales".toList ++ [' '] ++ '=' :: ' ' :: block)
  have here : assigned? "supportedLocales".toList
      ("supportedLocales".toList ++ [' '] ++ '=' :: ' ' :: block) = some block :=
    assigned?_words (by decide) (by decide) (by decide)
  have found : block? block = some ((body ++ '}' :: rest).takeWhile (· != '}')) := by
    simp [block, block?]
  have clear' : Unassigned "supportedLocales".toList
      (' ' :: default ++ "export const ".toList ++ ("supportedLocales".toList ++ [' '])) :=
    ((clear'.cons (by decide)).append (by decide)).append (by decide)
  have second := firstAlong_assigned clear' (by decide) here found
  rw [List.append_assoc, List.cons_append] at second
  have clear : Unassigned "supportedLocales".toList
      (preamble ++ ("export const ".toList ++ ("defaultLocale".toList ++ ": Locale ".toList))) :=
    clear.append (by decide)
  have other : block? ((' ' :: (default ++ after)).dropWhile Text.isBlank) = none := by
    have no_brace : delimiter ≠ '{' := by
      rintro rfl
      cases quote
    have starts : ∀ c ∈ (default ++ after).head?, Text.isBlank c = false := by
      intro c first
      have same : delimiter = c := Option.some.inj first
      exact same ▸ isBlank_of_isQuote quote
    rw [← List.singleton_append, dropWhile_span blank_space starts]
    simp [default, block?, no_brace]
  have skipped := firstAlong_skip clear (by decide) other second
  rw [default_words, supported_words, supported?]
  simpa only [default, after, block, List.append_assoc, List.cons_append, List.nil_append] using skipped

end IsLayout

/-- From a module in the documented layout no other default is read than the declared one. The registry that
it declares is read back exactly if none of its names has a delimiter, be it the one that does not delimit
the name, or a closing brace. -/
theorem reads_layout_iff {content : String} {registry : Registry}
    (layout : IsLayout registry content.toList) :
    (∀ other, read content = .ok other → other.defaultCode = registry.defaultCode) ∧
      (read content = .ok registry ↔
        ∀ name ∈ registry.names.values, ∀ c ∈ name.toList, isQuote c = false ∧ c ≠ '}') := by
  have default := layout.defaultCode?_eq
  obtain ⟨written, body, rest, lists, proper, declares, block⟩ := layout.exists_supported?
  refine ⟨fun other found => ?_, fun found name held c member => ?_, fun clean => ?_⟩
  · have default' := (read_eq_ok_iff.mp found).1
    rw [default, Option.some.injEq] at default'
    exact default'.symm
  · -- a name that is read is a stretch of the block, and that ends at the first closing brace
    obtain ⟨-, text, block', names⟩ := read_eq_ok_iff.mp found
    obtain ⟨inner, inside, unquoted, trimmed⟩ := exists_of_mem_values (names ▸ held)
    rw [trimmed] at member
    have member := (Text.isInfix_trim inner).subset member
    obtain ⟨-, -, -, -, free, -⟩ := exists_of_supported? block'
    exact ⟨unquoted c member, fun brace => free (inside.subset (brace ▸ member))⟩
  · have clean {entry : Entry} (member : entry ∈ written) {c : Char} (inside : c ∈ entry.inner) :
        isQuote c = false ∧ c ≠ '}' := by
      have held : entry.declared ∈ registry.names.entries :=
        declares.mem_iff.mp (List.mem_map_of_mem member)
      exact clean _ (List.mem_map_of_mem held) c (by simpa [Entry.declared] using inside)
    have free : ∀ c ∈ body, (c != '}') = true := by
      intro c member
      rw [bne_iff_ne]
      rintro rfl
      obtain ⟨entry, listed, inside⟩ := exists_brace_mem lists proper member
      exact (clean listed inside).2 rfl
    rw [takeWhile_span free (by simp)] at block
    refine read_eq_ok_iff.mpr ⟨default, body, block, ?_⟩
    have read_back := entries_body lists proper fun entry member c inside => (clean member inside).1
    rw [read_back, SortedMap.ofList_eq_of_mem_iff fun entry => declares.mem_iff]

/-- A bare code and a quoted one, with a comma behind each of the entries. -/
theorem reads_layout_iff_portuguese :
    let registry : Registry := ⟨"en", .ofList [("en", "English"), ("pt-BR", "Português")], by decide⟩
    let content := "import type \x7b Locale \x7d from './types';\n" ++
      "export const defaultLocale: Locale = 'en';\n" ++
      "export const supportedLocales = \x7b\n  en: 'English',\n  'pt-BR': \"Português\",\n\x7d as const;\n"
    IsLayout registry content.toList ∧ read content = .ok registry := by
  intro registry content
  let english : Entry := ⟨[], "en", [], [], [' '], '\'', "English".toList, '\''⟩
  let portuguese : Entry := ⟨['\''], "pt-BR", ['\''], [], [' '], '"', "Português".toList, '"'⟩
  have proper : ∀ entry ∈ [english, portuguese], entry.IsProper := by
    rintro entry (_ | ⟨_, _ | ⟨_, ⟨⟩⟩⟩) <;> decide
  have blank : ∀ c ∈ "\n  ".toList, Text.isBlank c = true := List.all_eq_true.mp (by decide)
  have break_line : ∀ c ∈ ['\n'], Text.isBlank c = true := List.all_eq_true.mp (by decide)
  have none : ∀ c ∈ [], Text.isBlank c = true := List.all_eq_true.mp rfl
  have lists := IsBody.more _ _ _ english _ blank none
    (.more _ _ _ portuguese _ blank none (.empty _ break_line))
  have layout : IsLayout registry content.toList := by
    convert @IsLayout.intro registry "import type \x7b Locale \x7d from './types';\n".toList ['\n'] _
      " as const;\n".toList '\'' _ rfl (.of_not_mem (by decide)) (.of_not_mem (by decide))
      (.of_not_mem (by decide)) lists proper (by decide) using 1
    decide +kernel
  have clean : registry.names.values.all fun name =>
      name.toList.all fun c => !isQuote c && c != '}' := by decide
  simp only [List.all_eq_true, Bool.and_eq_true, Bool.not_eq_true', bne_iff_ne] at clean
  exact ⟨layout, (reads_layout_iff layout).2.mpr clean⟩

/-- The apostrophe in a name between quotation marks ends the name that is read. -/
theorem reads_other_name :
    let written : Registry := ⟨"en", .ofList [("en", "Queen's English")], by decide⟩
    let content := "export const defaultLocale: Locale = 'en';\n" ++
      "export const supportedLocales = \x7b en: \"Queen's English\" \x7d;"
    IsLayout written content.toList ∧ read content ≠ .ok written ∧
      read content = .ok ⟨"en", .ofList [("en", "Queen")], by decide⟩ := by
  intro written content
  let entry : Entry := ⟨[], "en", [], [], [' '], '"', "Queen's English".toList, '"'⟩
  have proper : entry.IsProper := by decide
  have layout : IsLayout written content.toList := by
    convert @IsLayout.intro written [] ['\n'] _ [';'] '\'' [entry] rfl (.of_not_mem (by decide))
      (.of_not_mem (by decide)) (.of_not_mem (by decide))
      (.last [' '] [' '] entry blank_space blank_space) (by simpa using proper) (by decide) using 1
    decide +kernel
  have found : read content = .ok ⟨"en", .ofList [("en", "Queen")], by decide⟩ :=
    read_eq_ok_iff.mpr ⟨by decide +kernel, " en: \"Queen's English\" ".toList, by decide +kernel⟩
  refine ⟨layout, fun same => ?_, found⟩
  have name := congrArg (·.name? "en") (Except.ok.inj (found.symm.trans same))
  exact absurd name (by decide)

end LocaleFamilies.Declarations
