import LocaleFamilies.Locale.Declarations
import LocaleFamilies.Proofs.Family.Slot
import Mathlib.Data.List.TakeWhile

/-! What is found in a script module. Each reader takes a prefix of a certain shape off a text, and the
shape is said here by an equation for the text. So whatever the text of a module is, what a registry holds
has the characters that the shapes allow, and stands in the block of a declaration. -/
namespace LocaleFamilies

namespace Text

theorem isWord_of_isBlank {c : Char} (blank : isBlank c = true) : isWord c = false := by
  let blanks : List Nat := List.range' 0x09 5 ++ [0x20, 0x85, 0xa0, 0x1680] ++
    List.range' 0x2000 11 ++ [0x2028, 0x2029, 0x202f, 0x205f, 0x3000]
  have none : ∀ n ∈ blanks, isWord (Char.ofNat n) = false := by decide +kernel
  have member : c.toNat ∈ blanks := by
    simp only [isBlank, Bool.or_eq_true, Bool.and_eq_true, decide_eq_true_eq, beq_iff_eq] at blank
    simp only [blanks, List.mem_append, List.mem_range'_1, List.mem_cons, List.not_mem_nil, or_false]
    omega
  rw [← Char.ofNat_toNat c]
  exact none _ member

section Trim

variable (chars : List Char)

theorem isPrefix_trimEnd : trimEnd chars <+: chars := by
  induction chars with
  | nil => exact List.prefix_rfl
  | cons c rest ih =>
    rw [trimEnd]
    split
    · split
      · exact List.nil_prefix
      · simp
    · exact (List.prefix_cons_inj c).mpr ih

theorem getLast?_trimEnd : ∀ c ∈ (trimEnd chars).getLast?, isBlank c = false := by
  induction chars with
  | nil => simp [trimEnd]
  | cons c rest ih =>
    rw [trimEnd]
    split
    · split
      · simp
      · rename_i shown
        simpa using shown
    · rename_i kept
      intro last member
      rw [List.getLast?_cons_of_ne_nil kept] at member
      exact ih last member

theorem isInfix_trim : trim chars <:+: chars :=
  (isPrefix_trimEnd _).isInfix.trans (List.dropWhile_suffix _).isInfix

theorem ends_trim : (∀ c ∈ (trim chars).head?, isBlank c = false) ∧
    ∀ c ∈ (trim chars).getLast?, isBlank c = false := by
  constructor
  · intro c member
    have front := List.head?_dropWhile_not isBlank chars
    obtain ⟨more, whole⟩ := isPrefix_trimEnd (chars.dropWhile isBlank)
    rw [← whole, List.head?_append] at front
    rw [trim] at member
    simpa [Option.mem_def.mp member] using front
  · exact getLast?_trimEnd _

end Trim

end Text

theorem Registry.of_eq_ok_iff {defaultCode : Code} {names : SortedMap Code String} {registry : Registry} :
    Registry.of defaultCode names = .ok registry ↔
      registry.defaultCode = defaultCode ∧ registry.names = names := by
  constructor
  · intro accepted
    unfold Registry.of at accepted
    split at accepted
    · cases accepted
    · split at accepted
      · cases accepted
        exact ⟨rfl, rfl⟩
      · cases accepted
  · rintro ⟨rfl, rfl⟩
    have some_name : registry.names.isEmpty = false := by
      obtain ⟨name, held⟩ := (SortedMap.mem_keys_iff _ _).mp
        ((SortedMap.contains_iff _ _).mp registry.default_supported)
      have member := (SortedMap.get?_eq_some_iff _ _ _).mp held
      exact List.isEmpty_eq_false_iff.mpr (List.ne_nil_of_mem member)
    simp [Registry.of, some_name, registry.default_supported]

namespace Declarations

open Separated (takeWhile_span dropWhile_span)

section Chars

variable {c : Char}

theorem isQuote_iff : isQuote c = true ↔ c = '\'' ∨ c = '"' := by
  simp [isQuote]

theorem isCodeChar_of_isQuote (quote : isQuote c = true) : isCodeChar c = false := by
  rcases isQuote_iff.mp quote with rfl | rfl <;> decide

theorem isCodeChar_of_isBlank (blank : Text.isBlank c = true) : isCodeChar c = false := by
  rw [isCodeChar, Text.isWord_of_isBlank blank, Bool.false_or, beq_eq_false_iff_ne]
  rintro rfl
  cases blank

/-- A character of a code is neither a dot, a slash or a delimiter nor white space. -/
theorem plain_of_isCodeChar (coded : isCodeChar c = true) :
    c ≠ '.' ∧ c ≠ '/' ∧ isQuote c = false ∧ Text.isBlank c = false := by
  refine ⟨?_, ?_, ?_, ?_⟩
  · rintro rfl
    cases coded
  · rintro rfl
    cases coded
  · rw [← Bool.not_eq_true]
    intro quote
    rw [isCodeChar_of_isQuote quote] at coded
    cases coded
  · rw [← Bool.not_eq_true]
    intro blank
    rw [isCodeChar_of_isBlank blank] at coded
    cases coded

theorem isBlank_of_isQuote (quote : isQuote c = true) : Text.isBlank c = false := by
  rcases isQuote_iff.mp quote with rfl | rfl <;> decide

theorem isQuote_of_isBlank (blank : Text.isBlank c = true) : isQuote c = false := by
  rw [← Bool.not_eq_true]
  intro quote
  rw [isBlank_of_isQuote quote] at blank
  cases blank

end Chars

section Spans

variable {α : Type} {test : α → Bool} {body rest : List α}

theorem head?_append_cons {holds : α → Prop} {a : α} (starts : ∀ a ∈ body.head?, holds a)
    (next : holds a) : ∀ a' ∈ (body ++ a :: rest).head?, holds a' := by
  cases body with
  | nil => simpa using next
  | cons first more => simpa using starts first rfl

theorem exists_span (test : α → Bool) (text : List α) :
    ∃ body rest, text = body ++ rest ∧ (∀ a ∈ body, test a = true) ∧
      ∀ a ∈ rest.head?, test a = false := by
  refine ⟨text.takeWhile test, text.dropWhile test, List.takeWhile_append_dropWhile.symm,
    fun a member => List.mem_takeWhile_imp member, fun a member => ?_⟩
  have stop := List.head?_dropWhile_not test text
  rwa [Option.mem_def.mp member] at stop

end Spans

theorem after?_eq_some_iff {keyword text rest : List Char} :
    after? keyword text = some rest ↔ text = keyword ++ rest := by
  induction keyword generalizing text with
  | nil => simp [after?, eq_comm]
  | cons c word ih =>
    cases text with
    | nil => simp [after?]
    | cons d text =>
      rw [after?]
      split
      · rename_i same
        simp [ih, same]
      · rename_i other
        simp [Ne.symm other]

/-- A keyword, anything up to an equals sign on the same line, and a value. -/
inductive Assigns (keyword : List Char) : List Char → List Char → Prop
  | intro (between gap value : List Char) (ends : ∀ c ∈ between.head?, Text.isWord c = false)
    (inline : ∀ c ∈ between, c ≠ '=' ∧ c ≠ '\n') (blank : ∀ c ∈ gap, Text.isBlank c = true)
    (starts : ∀ c ∈ value.head?, Text.isBlank c = false) :
    Assigns keyword (keyword ++ (between ++ '=' :: (gap ++ value))) value

theorem assigned?_eq_some_iff {keyword text value : List Char} :
    assigned? keyword text = some value ↔ Assigns keyword text value := by
  constructor
  · intro found
    unfold assigned? at found
    split at found
    · cases found
    · rename_i rest taken
      rw [after?_eq_some_iff] at taken
      obtain ⟨between, more, rfl, inline, stops⟩ := exists_span (fun c => c != '=' && c != '\n') rest
      rw [dropWhile_span inline stops] at found
      split at found
      · cases found
      · rename_i ends
        split at found
        · rename_i assigned
          obtain ⟨gap, rest, rfl, blank, starts⟩ := exists_span Text.isBlank assigned
          rw [dropWhile_span blank starts, Option.some.injEq] at found
          subst found taken
          refine .intro between gap rest (fun c member => ?_) (by simpa using inline) blank starts
          cases between with
          | nil => cases member
          | cons first others => simpa [Option.mem_some.mp member] using ends
        · cases found
  · rintro ⟨between, gap, value, ends, inline, blank, starts⟩
    have reached : (between ++ '=' :: (gap ++ value)).dropWhile (fun c => c != '=' && c != '\n') =
        '=' :: (gap ++ value) := dropWhile_span (by simpa using inline) (by simp)
    have ended : ((between ++ '=' :: (gap ++ value)).head?.any Text.isWord) = false := by
      cases between with
      | nil => rfl
      | cons first others => simpa using ends first rfl
    simp only [assigned?, after?_eq_some_iff.mpr rfl, ended, reached, dropWhile_span blank starts]
    rfl

theorem block?_eq_some_iff {text body : List Char} :
    block? text = some body ↔ '}' ∉ body ∧ ∃ rest, text = '{' :: (body ++ '}' :: rest) := by
  constructor
  · intro found
    unfold block? at found
    split at found
    · rename_i inner
      split at found
      · rename_i closed
        obtain ⟨front, more, rfl, inside, stops⟩ := exists_span (· != '}') inner
        rw [takeWhile_span inside stops, Option.some.injEq] at found
        subst found
        have free : '}' ∉ front := fun member => by simpa using inside _ member
        cases more with
        | nil => simp [free] at closed
        | cons first rest =>
          obtain rfl : first = '}' := by simpa using stops first rfl
          exact ⟨free, rest, rfl⟩
      · cases found
    · cases found
  · rintro ⟨free, rest, rfl⟩
    have inside : ∀ c ∈ body, (c != '}') = true := by
      intro c member
      rw [bne_iff_ne]
      rintro rfl
      exact free member
    have taken : (body ++ '}' :: rest).takeWhile (· != '}') = body :=
      takeWhile_span inside (by simp)
    simp only [block?, taken]
    simp

theorem quotedCode?_eq_some_iff {text : List Char} {code : Code} :
    quotedCode? text = some code ↔ (code.toList ≠ [] ∧ ∀ c ∈ code.toList, isCodeChar c = true) ∧
      ∃ first last rest, isQuote first = true ∧ isQuote last = true ∧
        text = first :: (code.toList ++ last :: rest) := by
  constructor
  · intro found
    unfold quotedCode? at found
    split at found
    · cases found
    · rename_i first inner
      obtain ⟨front, more, rfl, inside, stops⟩ := exists_span isCodeChar inner
      simp only [takeWhile_span inside stops, dropWhile_span inside stops] at found
      split at found
      · rename_i quoted
        rw [Option.some.injEq] at found
        subst found
        simp only [Bool.and_eq_true, Bool.not_eq_true', List.isEmpty_eq_false_iff] at quoted
        obtain ⟨⟨opens, coded⟩, closes⟩ := quoted
        cases more with
        | nil => cases closes
        | cons last rest =>
          rw [String.toList_ofList]
          exact ⟨⟨coded, inside⟩, first, last, rest, opens, by simpa using closes, rfl⟩
      · cases found
  · rintro ⟨⟨coded, inside⟩, first, last, rest, opens, closes, rfl⟩
    have stops : ∀ c ∈ (last :: rest).head?, isCodeChar c = false := by
      simpa using isCodeChar_of_isQuote closes
    simp [quotedCode?, takeWhile_span inside stops, dropWhile_span inside stops, opens, closes,
      coded]

/-- A delimiter, or nothing in its place. -/
def IsMark (chars : List Char) : Prop := chars = [] ∨ ∃ c, isQuote c = true ∧ chars = [c]

theorem exists_mark (text : List Char) : ∃ mark, IsMark mark ∧ text = mark ++ dropQuote text := by
  cases text with
  | nil => exact ⟨[], Or.inl rfl, rfl⟩
  | cons c rest =>
    rw [dropQuote]
    split
    · rename_i quote
      exact ⟨[c], Or.inr ⟨c, quote, rfl⟩, rfl⟩
    · exact ⟨[], Or.inl rfl, rfl⟩

theorem dropQuote_append {mark rest : List Char} (marked : IsMark mark)
    (bare : ∀ c ∈ rest.head?, isQuote c = false) : dropQuote (mark ++ rest) = rest := by
  rcases marked with rfl | ⟨c, quote, rfl⟩
  · cases rest with
    | nil => rfl
    | cons first more => simp [dropQuote, bare first rfl]
  · simp [dropQuote, quote]

/-- An entry as it is written: a code, bare or between delimiters, a colon, and a name between
delimiters. -/
structure Entry where
  opening : List Char
  code : Code
  closing : List Char
  beforeColon : List Char
  afterColon : List Char
  first : Char
  inner : List Char
  last : Char

namespace Entry

def text (entry : Entry) : List Char :=
  entry.opening ++ (entry.code.toList ++ (entry.closing ++ (entry.beforeColon ++
    ':' :: (entry.afterColon ++ entry.first :: (entry.inner ++ [entry.last])))))

/-- The code of an entry, with the name that is read from it. -/
def pair (entry : Entry) : Code × String := (entry.code, String.ofList (Text.trim entry.inner))

/-- An entry that is read to its end: no delimiter stands inside the name. -/
structure IsReadable (entry : Entry) : Prop where
  opening : IsMark entry.opening
  coded : entry.code.toList ≠ []
  code : ∀ c ∈ entry.code.toList, isCodeChar c = true
  closing : IsMark entry.closing
  beforeColon : ∀ c ∈ entry.beforeColon, Text.isBlank c = true
  afterColon : ∀ c ∈ entry.afterColon, Text.isBlank c = true
  first : isQuote entry.first = true
  inner : ∀ c ∈ entry.inner, isQuote c = false
  last : isQuote entry.last = true

end Entry

theorem pair?_eq_some_iff {text rest : List Char} {found : Code × String} :
    pair? text = some (found, rest) ↔
      ∃ entry : Entry, entry.IsReadable ∧ found = entry.pair ∧ text = entry.text ++ rest := by
  constructor
  · intro here
    obtain ⟨opening, opens, whole⟩ := exists_mark text
    obtain ⟨code, tail, spanned, inside, stops⟩ := exists_span isCodeChar (dropQuote text)
    obtain ⟨closing, closes, tail_eq⟩ := exists_mark tail
    obtain ⟨beforeColon, colon, reached, blank, stops'⟩ := exists_span Text.isBlank (dropQuote tail)
    simp only [pair?, spanned, takeWhile_span inside stops, dropWhile_span inside stops, reached,
      dropWhile_span blank stops'] at here
    split at here
    · cases here
    · rename_i coded
      split at here
      · rename_i value
        obtain ⟨afterColon, value, rfl, blank', stops''⟩ := exists_span Text.isBlank value
        rw [dropWhile_span blank' stops''] at here
        split at here
        · rename_i first named
          obtain ⟨inner, ending, rfl, unquoted, ends⟩ := exists_span (fun c => !isQuote c) named
          simp only [takeWhile_span unquoted ends, dropWhile_span unquoted ends] at here
          split at here
          · rename_i last after
            split at here
            · rename_i quote
              cases here
              refine ⟨⟨opening, String.ofList code, closing, beforeColon, afterColon, first, inner,
                last⟩, ⟨opens, ?_, ?_, closes, blank, blank', quote, ?_, ?_⟩, rfl, ?_⟩
              · simpa using coded
              · simpa using inside
              · simpa using unquoted
              · simpa using ends last rfl
              · rw [whole, spanned, tail_eq, reached]
                simp [Entry.text]
            · cases here
          · cases here
        · cases here
      · cases here
  · rintro ⟨entry, readable, rfl, rfl⟩
    -- what is left of the text behind the code, behind its delimiter, and behind the colon
    let value := entry.afterColon ++ entry.first :: (entry.inner ++ entry.last :: rest)
    let colon := entry.beforeColon ++ ':' :: value
    have whole : entry.text ++ rest = entry.opening ++ (entry.code.toList ++ (entry.closing ++ colon)) := by
      simp [Entry.text, colon, value]
    have opened : dropQuote (entry.text ++ rest) = entry.code.toList ++ (entry.closing ++ colon) := by
      rw [whole]
      refine dropQuote_append readable.opening fun c member => ?_
      obtain ⟨first, others, shape⟩ := List.exists_cons_of_ne_nil readable.coded
      rw [shape, List.cons_append, List.head?_cons, Option.mem_some_iff] at member
      have coded := readable.code first (shape ▸ List.mem_cons_self)
      exact member ▸ (plain_of_isCodeChar coded).2.2.1
    have coloned : ∀ c ∈ colon.head?, isCodeChar c = false ∧ isQuote c = false := by
      refine head?_append_cons (fun c member => ?_) (by decide)
      have blank := readable.beforeColon c (List.mem_of_mem_head? member)
      exact ⟨isCodeChar_of_isBlank blank, isQuote_of_isBlank blank⟩
    have ended : ∀ c ∈ (entry.closing ++ colon).head?, isCodeChar c = false := by
      rcases readable.closing with none | ⟨quote, closes, here⟩
      · rw [none]
        exact fun c member => (coloned c member).1
      · rw [here]
        simpa using isCodeChar_of_isQuote closes
    have closed : dropQuote (entry.closing ++ colon) = colon :=
      dropQuote_append readable.closing fun c member => (coloned c member).2
    have reached : colon.dropWhile Text.isBlank = ':' :: value :=
      dropWhile_span readable.beforeColon (by simp; decide)
    have named : value.dropWhile Text.isBlank = entry.first :: (entry.inner ++ entry.last :: rest) := by
      refine dropWhile_span readable.afterColon ?_
      simpa using isBlank_of_isQuote readable.first
    have inside : ∀ c ∈ entry.inner, (!isQuote c) = true := by simpa using readable.inner
    have stops : ∀ c ∈ (entry.last :: rest).head?, (!isQuote c) = false := by simpa using readable.last
    have coded : entry.code.toList.isEmpty = false := by simpa using readable.coded
    simp only [pair?, opened, takeWhile_span readable.code ended, dropWhile_span readable.code ended,
      closed, reached, named, takeWhile_span inside stops, dropWhile_span inside stops, coded,
      readable.first]
    simp [Entry.pair]

section Along

variable {α : Type} {read : List Char → Option α} {answer : α}

theorem exists_of_firstAlong {text : List Char} (found : firstAlong read text = some answer) :
    ∃ before rest, text = before ++ rest ∧ read rest = some answer := by
  induction text with
  | nil => exact ⟨[], [], rfl, found⟩
  | cons c text ih =>
    rw [firstAlong, Option.or_eq_some_iff] at found
    rcases found with here | ⟨-, later⟩
    · exact ⟨[], c :: text, rfl, here⟩
    · obtain ⟨before, rest, rfl, found⟩ := ih later
      exact ⟨c :: before, rest, rfl, found⟩

/-- An answer is the first one if nothing else is answered before it. -/
theorem firstAlong_append {before rest : List Char}
    (skipped : ∀ start, start <:+ before → start ≠ [] →
      read (start ++ rest) = none ∨ read (start ++ rest) = some answer)
    (found : firstAlong read rest = some answer) : firstAlong read (before ++ rest) = some answer := by
  induction before with
  | nil => exact found
  | cons c before ih =>
    have later := ih fun start ending => skipped start (ending.trans (List.suffix_cons c before))
    rw [List.cons_append, firstAlong, later]
    rcases skipped (c :: before) List.suffix_rfl (by simp) with none | same
    · rw [List.cons_append] at none
      rw [none, Option.none_or]
    · rw [List.cons_append] at same
      rw [same, Option.some_or]

end Along

section Entries

theorem entries_of_pair? {text rest : List Char} {found : Code × String}
    (here : pair? text = some (found, rest)) : entries text = found :: entries rest := by
  rw [entries]
  split
  · rename_i other there
    rw [here] at there
    cases there
    rfl
  · rename_i none
    rw [here] at none
    cases none

theorem entries_cons {c : Char} {rest : List Char} (none : pair? (c :: rest) = none) :
    entries (c :: rest) = entries rest := by
  rw [entries]
  split
  · rename_i found here
    rw [none] at here
    cases here
  · rfl

theorem exists_of_mem_entries {text : List Char} {found : Code × String}
    (member : found ∈ entries text) :
    ∃ before entry rest, entry.IsReadable ∧ found = entry.pair ∧
      text = before ++ (Entry.text entry ++ rest) := by
  induction text using entries.induct with
  | case1 text first rest here _ ih =>
    rw [entries_of_pair? here, List.mem_cons] at member
    obtain ⟨entry, readable, rfl, rfl⟩ := pair?_eq_some_iff.mp here
    rcases member with rfl | later
    · exact ⟨[], entry, rest, readable, rfl, rfl⟩
    · obtain ⟨before, other, more, readable', rfl, rfl⟩ := ih later
      exact ⟨entry.text ++ before, other, more, readable', rfl, by simp⟩
  | case2 none =>
    rw [entries] at member
    split at member
    · rename_i here
      rw [none] at here
      cases here
    · cases member
  | case3 c rest none ih =>
    rw [entries_cons none] at member
    obtain ⟨before, entry, more, readable, rfl, rfl⟩ := ih member
    exact ⟨c :: before, entry, more, readable, rfl, rfl⟩

/-- A name that is read from a text is a stretch of it without a delimiter, less its outer white space. -/
theorem exists_of_mem_values {text : List Char} {name : String}
    (held : name ∈ (SortedMap.ofList (entries text)).values) :
    ∃ inner, inner <:+: text ∧ (∀ c ∈ inner, isQuote c = false) ∧ name.toList = Text.trim inner := by
  obtain ⟨found, member, rfl⟩ := List.mem_map.mp held
  obtain ⟨before, entry, rest, readable, rfl, rfl⟩ :=
    exists_of_mem_entries (SortedMap.mem_of_mem_ofList member)
  let front := entry.opening ++ (entry.code.toList ++ (entry.closing ++ (entry.beforeColon ++
    ':' :: (entry.afterColon ++ [entry.first]))))
  refine ⟨entry.inner, ⟨before ++ front, entry.last :: rest, ?_⟩, readable.inner, ?_⟩
  · simp [front, Entry.text]
  · simp [Entry.pair]

end Entries

theorem read_eq_ok_iff {content : String} {registry : Registry} :
    read content = .ok registry ↔ defaultCode? content.toList = some registry.defaultCode ∧
      ∃ body, supported? content.toList = some body ∧ registry.names = .ofList (entries body) := by
  have mapped (outcome : Except Registry.Error Registry) :
      outcome.mapError Error.noRegistry = .ok registry ↔ outcome = .ok registry := by
    cases outcome <;> simp [Except.mapError]
  unfold read
  cases defaultCode? content.toList with
  | none => simp
  | some code =>
    cases supported? content.toList with
    | none => simp
    | some body =>
      simp only [mapped, Registry.of_eq_ok_iff, Option.some.injEq, exists_eq_left']
      exact and_congr_left fun _ => eq_comm

/-- A body of supported locales that a module declares stands in braces behind the keyword. -/
theorem exists_of_supported? {text body : List Char} (found : supported? text = some body) :
    ∃ before declaration rest, text = before ++ declaration ∧ '}' ∉ body ∧
      Assigns "supportedLocales".toList declaration ('{' :: (body ++ '}' :: rest)) := by
  obtain ⟨before, declaration, rfl, here⟩ := exists_of_firstAlong found
  obtain ⟨value, assigned, block⟩ := Option.bind_eq_some_iff.mp here
  obtain ⟨free, rest, rfl⟩ := block?_eq_some_iff.mp block
  exact ⟨before, declaration, rest, rfl, free, assigned?_eq_some_iff.mp assigned⟩

/-- Whatever the text of a module is, a registry read from it has a default among its codes, its codes are
words and hyphens and so plain, and its names have neither delimiters nor white space around them. All codes
stand between the opening brace of a declaration and the first closing one behind it. -/
theorem read_is_plain {content : String} {registry : Registry} (found : read content = .ok registry) :
    (registry.names.isEmpty = false ∧ registry.defaultCode ∈ registry.codes) ∧
      (∀ code ∈ registry.codes, code ≠ "" ∧ ∀ c ∈ code.toList, isCodeChar c = true ∧ c ≠ '.' ∧
        c ≠ '/' ∧ isQuote c = false ∧ Text.isBlank c = false) ∧
      registry.HasPlainCodes ∧
      (∀ name ∈ registry.names.values, (∀ c ∈ name.toList, isQuote c = false) ∧
        (∀ c ∈ name.toList.head?, Text.isBlank c = false) ∧
        ∀ c ∈ name.toList.getLast?, Text.isBlank c = false) ∧
      ∃ before declaration body rest, content.toList = before ++ declaration ∧
        Assigns "supportedLocales".toList declaration ('{' :: (body ++ '}' :: rest)) ∧ '}' ∉ body ∧
        ∀ code ∈ registry.codes, code.toList <:+: body := by
  obtain ⟨-, body, block, names⟩ := read_eq_ok_iff.mp found
  have coded {code : Code} (supported : code ∈ registry.codes) :
      code ≠ "" ∧ (∀ c ∈ code.toList, isCodeChar c = true) ∧ code.toList <:+: body := by
    obtain ⟨entry, member, rfl⟩ := List.mem_map.mp supported
    obtain ⟨before, written, rest, readable, same, whole⟩ :=
      exists_of_mem_entries (SortedMap.mem_of_mem_ofList (names ▸ member))
    rw [same]
    refine ⟨fun none => readable.coded (String.toList_eq_nil_iff.mpr none), readable.code, ?_⟩
    rw [whole]
    exact ⟨before ++ written.opening, written.closing ++ (written.beforeColon ++ ':' ::
      (written.afterColon ++ written.first :: (written.inner ++ [written.last]))) ++ rest,
      by simp [Entry.text, Entry.pair]⟩
  have plain {code : Code} (supported : code ∈ registry.codes) {c : Char} (member : c ∈ code.toList) :=
    plain_of_isCodeChar ((coded supported).2.1 c member)
  obtain ⟨before, declaration, rest, text, free, assigned⟩ := exists_of_supported? block
  have default_mem := registry.defaultCode_mem
  refine ⟨⟨?_, default_mem⟩, fun code supported => ?_, fun code supported => ?_, fun name held => ?_,
    before, declaration, body, rest, text, assigned, free, fun code supported => (coded supported).2.2⟩
  · rw [SortedMap.isEmpty, List.isEmpty_eq_false_iff]
    intro none
    simp [Registry.codes, SortedMap.keys, none] at default_mem
  · exact ⟨(coded supported).1, fun c member => ⟨(coded supported).2.1 c member, plain supported member⟩⟩
  · exact ⟨(coded supported).1, fun member => (plain supported member).1 rfl,
      fun member => (plain supported member).2.1 rfl⟩
  · obtain ⟨inner, -, unquoted, trimmed⟩ := exists_of_mem_values (names ▸ held)
    rw [trimmed]
    exact ⟨fun c member => unquoted c ((Text.isInfix_trim inner).subset member), Text.ends_trim inner⟩

/-- Delimiters that do not fit each other and blanks inside them do not get into the registry. -/
theorem read_is_plain_careless :
    let content := "defaultLocale = 'en\"; supportedLocales =\x7b zh': 'Chinese\", fr: none, en :\" English ' \x7d"
    read content = .ok .bilingual ∧ Registry.bilingual.HasPlainCodes ∧
      ∀ name ∈ Registry.bilingual.names.values, ∀ c ∈ name.toList, isQuote c = false := by
  intro content
  let body := " zh': 'Chinese\", fr: none, en :\" English ' ".toList
  have found : read content = .ok .bilingual :=
    read_eq_ok_iff.mpr ⟨by decide +kernel, body, by decide +kernel⟩
  obtain ⟨-, -, plain, named, -⟩ := read_is_plain found
  exact ⟨found, plain, fun name held => (named name held).1⟩

end Declarations

end LocaleFamilies
