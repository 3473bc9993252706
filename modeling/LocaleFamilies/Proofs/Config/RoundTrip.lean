import LocaleFamilies.Config.Format
import LocaleFamilies.Proofs.Json.RoundTrip

/-! Configurations that are written and read back. Each field that is written sets its place in the draft,
and a field that is not written leaves it free. So an absent field stays absent, and one that is there with
nothing in it is not taken for one that is left out. -/
namespace LocaleFamilies

open Json

theorem Command.decode_value (command : Command) :
    shape.decode command.value.reading = .ok command := by
  have arguments := list_strings text id (fun _ => rfl) command.arguments
  rw [List.map_id] at arguments
  have first : shape.taken shape.start [("command", .string command.program)] =
      .ok ⟨some command.program, none⟩ := rfl
  have second : shape.taken ⟨some command.program, none⟩
      [("args", .list (command.arguments.map .string))] =
        .ok ⟨some command.program, some command.arguments⟩ := by
    simp only [Shape.taken, List.map_cons, List.map_nil, List.foldlM_cons, shape, once, arguments]
    rfl
  have both : shape.taken shape.start [("command", .string command.program),
      ("args", .list (command.arguments.map .string))] = _ := Shape.taken_append first second
  rw [value, Shape.decode_object, both]
  rfl

namespace Config

/-- A field that may be absent takes its slot exactly if it is there. -/
theorem taken_field {α : Type} (name : String) (write : α → Value) (item : Reading → Except Problem α)
    (reads : ∀ a, item (write a).reading = .ok a) (after : Option (Option α) → Draft)
    (takes : ∀ reading, shape.take (after none) name reading =
      (once name none (optional item) reading).bind fun slot => .ok (after slot))
    (content : Option α) :
    shape.taken (after none) (field name write content) = .ok (after (content.map some)) := by
  cases content with
  | none => rfl
  | some a =>
    rw [field, Shape.taken, List.map_singleton, List.foldlM_cons, takes, once, if_neg (by simp),
      optional_reading, reads]
    rfl

/-- A field that is always written takes its slot. -/
theorem taken_texts (name : String) (after : Option (List String) → Draft)
    (takes : ∀ reading, shape.take (after none) name reading =
      (once name none (list text) reading).bind fun slot => .ok (after slot))
    (strings : List String) :
    shape.taken (after none) [(name, texts strings)] = .ok (after (some strings)) := by
  have read := list_strings text id (fun _ => rfl) strings
  rw [List.map_id] at read
  rw [Shape.taken, List.map_singleton, List.foldlM_cons, takes, once, if_neg (by simp), texts, read]
  rfl

theorem names_entries (locales : SortedMap Code String) :
    names (Value.object (locales.entries.map fun entry => (entry.1, .string entry.2))).reading =
      .ok locales := by
  rw [names, entries_strings]
  exact congrArg Except.ok (SortedMap.ofList_eq_of_mem_iff fun _ => Iff.rfl)

/-- The fields are taken one after another, each of them once. -/
theorem decode_value (config : Config) : shape.decode config.value.reading = .ok config := by
  obtain ⟨defaultLocale, locales, localeSource, scanDirs, extensions, ignores, backend⟩ := config
  let code := defaultLocale.map some
  let known := locales.map some
  let script := localeSource.map some
  have first := taken_field "defaultLocale" .string text (fun _ => rfl)
    (fun slot => ⟨slot, none, none, none, none, none, none⟩) (fun _ => rfl) defaultLocale
  have second := taken_field "locales" _ names names_entries
    (fun slot => ⟨code, slot, none, none, none, none, none⟩) (fun _ => rfl) locales
  have third := taken_field "localeSource" .string text (fun _ => rfl)
    (fun slot => ⟨code, known, slot, none, none, none, none⟩) (fun _ => rfl) localeSource
  have fourth := taken_texts "scanDirs"
    (fun slot => ⟨code, known, script, slot, none, none, none⟩) (fun _ => rfl) scanDirs
  have fifth := taken_texts "extensions"
    (fun slot => ⟨code, known, script, scanDirs, slot, none, none⟩) (fun _ => rfl) extensions
  have sixth := taken_texts "ignores"
    (fun slot => ⟨code, known, script, scanDirs, extensions, slot, none⟩) (fun _ => rfl) ignores
  have last := taken_field "backend" Command.value Command.shape.decode Command.decode_value
    (fun slot => ⟨code, known, script, scanDirs, extensions, ignores, slot⟩) (fun _ => rfl) backend
  have middle := Shape.taken_append (Shape.taken_append fourth fifth) sixth
  have all := Shape.taken_append (Shape.taken_append (Shape.taken_append
    (Shape.taken_append first second) third) middle) last
  refine (shape.decode_object _).trans ((congrArg (Except.bind · _) all).trans ?_)
  have absent {α : Type} (slot : Option α) : (slot.map some).getD none = slot := by
    cases slot <;> rfl
  simp only [Except.bind, shape, absent, Option.getD_some, code, known, script]

/-- What is written of a configuration is read back as the same configuration, also with the line end that
a file of its own has. -/
theorem survives_writing (config : Config) :
    read config.render = .ok config ∧ read (config.render ++ "\n") = .ok config := by
  constructor
  · rw [read, render, decode_render Layout.isLegible_pretty, decode_value]
  · have ended : (config.render ++ "\n").toList = written .pretty 0 config.value ++ ['\n'] := by
      rw [String.toList_append, render, Json.render, String.toList_ofList]
      rfl
    rw [read, ended, decode_written Layout.isLegible_pretty _ _ (List.forall_mem_singleton.mpr rfl),
      decode_value]

end Config

end LocaleFamilies
